import Assay.Console.Grid
import Assay.Proofs.Traversal

/-! # What can always be shown

A marked text is shown unless it closes a tag that is not open. A text without an opening bracket
has no tags. Nor has an escaped text, whatever stands around it: its brackets either begin no tag or
are turned into text. So only what is put into a marked text without being escaped can keep it from
being shown.
-/

namespace Assay.Console

variable {chunk text rest inside behind : List Char} {count : Nat} {openTags : List (List Char)}
  {c : Char}

/-! ## Steps of the reading -/

/-- A tag ends the text before it, and an odd number of backslashes makes text of it. -/
theorem piecesAfter_of_tag (htag : tag? text = some (inside, behind)) :
    piecesAfter chunk count text =
      .text chunk.reverse :: .text (backslashes (count / 2)) ::
        (if count % 2 = 1 then .text ('[' :: inside ++ [']']) else .tag inside) ::
        piecesAfter [] 0 behind := by
  rw [piecesAfter]
  split
  next other after hother =>
    obtain ⟨rfl, rfl⟩ := Prod.mk.inj (Option.some.inj (htag.symm.trans hother))
    rfl
  next hnone =>
    rw [htag] at hnone
    cases hnone

theorem piecesAfter_cons (htag : tag? (c :: rest) = none) :
    piecesAfter chunk count (c :: rest) =
      if c = '\\' then piecesAfter chunk (count + 1) rest
      else piecesAfter (c :: (backslashes count ++ chunk)) 0 rest := by
  rw [piecesAfter]
  split
  next hsome =>
    rw [htag] at hsome
    cases hsome
  next => rfl

theorem tag?_cons_of_ne (hne : c ≠ '[') : tag? (c :: rest) = none := by
  unfold tag?
  split
  next heq => exact absurd (List.cons.inj heq).1 hne
  next => rfl

/-- What is read of a text while some tags are open can be shown, whatever has been read before. -/
def Showable (openTags : List (List Char)) (text : List Char) : Prop :=
  ∀ chunk count, (shownPieces openTags (piecesAfter chunk count text)).isSome = true

theorem isSome_shownPieces_text {pieces : List Piece} :
    (shownPieces openTags (.text chunk :: pieces)).isSome =
      (shownPieces openTags pieces).isSome := by
  rw [shownPieces, Option.isSome_map]

/-- What is read of a text while some tags are open can be shown, if it begins anew: the character
before it is not a backslash. -/
def ShowableAnew (openTags : List (List Char)) (text : List Char) : Prop :=
  ∀ chunk, (shownPieces openTags (piecesAfter chunk 0 text)).isSome = true

theorem Showable.anew (hshowable : Showable openTags text) : ShowableAnew openTags text :=
  fun chunk => hshowable chunk 0

theorem ShowableAnew.cons (hrest : ShowableAnew openTags rest) (htag : tag? (c :: rest) = none)
    (hne : c ≠ '\\') : Showable openTags (c :: rest) := by
  intro chunk count
  rw [piecesAfter_cons htag, if_neg hne]
  exact hrest _

/-- Text without brackets and backslashes does no harm before what can be shown anew. -/
theorem ShowableAnew.append (hrest : ShowableAnew openTags rest) (hbracket : '[' ∉ text)
    (hbackslash : '\\' ∉ text) : ShowableAnew openTags (text ++ rest) := by
  induction text with
  | nil => exact hrest
  | cons c text ih =>
      rw [List.mem_cons, not_or] at hbracket hbackslash
      exact ((ih hbracket.2 hbackslash.2).cons (tag?_cons_of_ne (Ne.symm hbracket.1))
        (Ne.symm hbackslash.1)).anew

/-- A tag that opens. -/
theorem ShowableAnew.opening {name : List Char} (htag : tag? text = some (inside, behind))
    (hname : tagName inside = name) (hopens : name.head? ≠ some '/')
    (hbehind : ShowableAnew (normalName name :: openTags) behind) : ShowableAnew openTags text := by
  intro chunk
  rw [piecesAfter_of_tag htag, if_neg (by decide), isSome_shownPieces_text,
    isSome_shownPieces_text, shownPieces, hname]
  split
  next => exact absurd rfl hopens
  next => exact hbehind []

/-- A tag that closes another one. -/
theorem ShowableAnew.closing {name : List Char} {others : List (List Char)}
    (htag : tag? text = some (inside, behind)) (hname : tagName inside = '/' :: name)
    (hclosed : closeTag name openTags = some others) (hbehind : ShowableAnew others behind) :
    ShowableAnew openTags text := by
  intro chunk
  rw [piecesAfter_of_tag htag, if_neg (by decide), isSome_shownPieces_text,
    isSome_shownPieces_text, shownPieces, hname]
  change ((closeTag name openTags).bind fun left =>
    shownPieces left (piecesAfter [] 0 behind)).isSome = true
  rw [hclosed]
  exact hbehind []

end Assay.Console
