import Assay.Console.EmojiTable
import Assay.Text.Case
import Assay.Text.Basic

/-! # Emoji by name

A name between colons stands for its emoji. Letter case does not count, and the name may end in
a word that picks the text form or the emoji form of the character. An unknown name stays as it is
written.
-/

namespace Assay.Console

def itemEntries (item : List Char) : List (List Char × List Char) :=
  match Text.splitOn '=' item with
  | [] => []
  | emoji :: names => names.map fun name => (name, emoji)

/-- The entries of lines of items: names with their emoji. -/
def entries (lines : List String) : List (List Char × List Char) :=
  lines.flatMap fun line => (Text.splitOn ' ' line.toList).flatMap itemEntries

/-- The emoji that may take a skin tone. -/
def persons : List (List Char × List Char) := entries personLines

def flags : List (List Char × List Char) := entries flagLines

def emoji : List (List Char × List Char) := persons ++ flags ++ entries emojiLines

/-- The endings of names that ask for a skin tone. An ending stands behind those that it ends. -/
def skinTones : List (List Char × Char) := [
  ("_medium-light_skin_tone".toList, '🏼'), ("_medium-dark_skin_tone".toList, '🏾'),
  ("_light_skin_tone".toList, '🏻'), ("_medium_skin_tone".toList, '🏽'),
  ("_dark_skin_tone".toList, '🏿')]

def beforeEnding? (ending text : List Char) : Option (List Char) :=
  if ending.isSuffixOf text then some (text.take (text.length - ending.length)) else none

/-- An emoji with a skin tone: the tone follows the first character in place of a selector. -/
def withTone (tone : Char) : List Char → List Char
  | first :: '\uFE0F' :: rest => first :: tone :: rest
  | first :: rest => first :: tone :: rest
  | [] => []

/-- The emoji of a person with the skin tone that ends its name. -/
def tonedEmoji? (name : List Char) : Option (List Char) :=
  skinTones.findSome? fun (ending, tone) =>
    (beforeEnding? ending name).bind fun base => (persons.lookup base).map (withTone tone)

/-- What precedes the name of a flag. -/
def flagWords : List Char := "flag_for_".toList

def emoji? (name : List Char) : Option (List Char) :=
  (emoji.lookup name).or <| (tonedEmoji? name).or <|
    if flagWords.isPrefixOf name then flags.lookup (name.drop flagWords.length) else none

/-- The endings that pick a form of the character. -/
def forms : List (List Char × Char) := [
  ("-emoji".toList, '\uFE0F'), ("-text".toList, '\uFE0E')]

/-- What stands for the text between two colons, if it names an emoji. -/
def namedEmoji? (text : List Char) : Option (List Char) :=
  match forms.findSome? fun (ending, form) =>
      (beforeEnding? ending text).map fun name => (name, form) with
  | some (name, form) => (emoji? (Text.lowercase name)).map (· ++ [form])
  | none => emoji? (Text.lowercase text)

/-- The text up to the next colon, if there are no blanks in it. -/
def upToColon? : List Char → Option (List Char)
  | [] => none
  | c :: rest =>
    if c = ':' then some []
    else if Text.isBlank c then none
    else (upToColon? rest).map (c :: ·)

/-- A text with emoji for their names. `skip` characters are already accounted for. -/
def withEmojiAfter (skip : Nat) : List Char → List Char
  | [] => []
  | c :: rest =>
    match skip with
    | skip + 1 => withEmojiAfter skip rest
    | 0 =>
      match if c = ':' then upToColon? rest else none with
      | none => c :: withEmojiAfter 0 rest
      | some name =>
        (namedEmoji? name).getD (':' :: name ++ [':']) ++ withEmojiAfter (name.length + 1) rest

def withEmoji (text : List Char) : List Char := withEmojiAfter 0 text

end Assay.Console
