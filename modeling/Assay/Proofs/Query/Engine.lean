import Assay.Proofs.Query.Reading
import Assay.Query.Engine

/-! # Engines that follow a path

What an engine is taken to do with the query for a plain path: it reads the names and the indexes of
the path as steps to children, looks a name up in objects only, and finds the item of an array at an
index below its length. Such an engine finds exactly the node to which the path leads, and nothing
where a path without indexes leads nowhere.
-/

namespace Assay.Query

open Json (Segment Value)

/-! ## Links -/

/-- A step to a child: to the member with a name, or to the item at an index. -/
inductive Link where
  | field (name : String)
  | index (position : Nat)

/-- The links that a step of a path is made of. -/
def linksOf : Segment → List Link
  | .field key => [.field (String.ofList key)]
  | .indexed key digits => [.field (String.ofList key), .index (Number.ofDigits digits)]

def Link.child? (value : Value) : Link → Option Value
  | .field name => value.field? name
  | .index position => value.item? position

/-- The node to which links lead from a value. -/
def follow? (value : Value) : List Link → Option Value
  | [] => some value
  | link :: rest => (link.child? value).bind fun child => follow? child rest

theorem follow?_append (value : Value) (links rest : List Link) :
    follow? value (links ++ rest) = (follow? value links).bind fun child => follow? child rest := by
  induction links generalizing value with
  | nil => rfl
  | cons link links ih =>
      rw [List.cons_append, follow?, follow?, Option.bind_assoc]
      exact congrArg _ (funext ih)

/-- A step of a path takes what its links lead to. -/
theorem step_eq_follow? {step : Segment} (hfits : step.IndexFits) (value : Value) :
    step.step value = .ok (follow? value (linksOf step)) := by
  cases step with
  | field key =>
      rw [Segment.step, linksOf, follow?, Link.child?]
      cases value.field? (String.ofList key) <;> rfl
  | indexed key digits =>
      rw [Segment.step, linksOf, follow?, Link.child?, Number.readDigits, if_neg (not_lt.mpr hfits)]
      cases value.field? (String.ofList key) with
      | none => rfl
      | some array =>
          rw [Option.bind_some, follow?, Link.child?]
          cases hitem : array.item? (Number.ofDigits digits) <;> simp [hitem, Except.map, follow?]

/-- A path whose indexes can be read leads where its links do. -/
theorem follow_eq_follow? {steps : List Segment} (hfits : ∀ step ∈ steps, step.IndexFits)
    (value : Value) :
    Json.follow value steps = .ok (follow? value (steps.flatMap linksOf)) := by
  induction steps generalizing value with
  | nil => rfl
  | cons step rest ih =>
      obtain ⟨hstep, hrest⟩ := List.forall_mem_cons.mp hfits
      rw [Json.follow, step_eq_follow? hstep, List.flatMap_cons, follow?_append]
      cases follow? value (linksOf step) with
      | none => rfl
      | some child => exact ih hrest child

theorem collect_nil {α : Type} (select : α → Except Failure (List α)) :
    collect select [] = .ok [] := rfl

theorem collect_singleton {α : Type} (select : α → Except Failure (List α)) (place : α) :
    collect select [place] = select place := by
  rw [collect, List.mapM_cons]
  cases select place <;> simp [bind, Except.bind, pure, Except.pure, Except.map]

/-! ## Engines -/

namespace Engine

def link (engine : Engine) : Link → engine.Expression
  | .field name => engine.field name
  | .index position => engine.index position

/-- The query for links that are followed one after the other from the root. -/
def chain (engine : Engine) (links : List Link) : engine.Expression :=
  links.foldl (fun whole link => engine.child whole (engine.link link)) engine.root

/-- The values of the places to which a query leads: a single one, or none. -/
def Finds (engine : Engine) (query : engine.Expression) (place : engine.Place)
    (found : Option Value) : Prop :=
  ∃ places, engine.find query place = .ok places ∧
    List.Forall₂ (fun place value => engine.value place = .ok value) places found.toList

/-- An engine follows a path: it reads the query for the path as its links from the root, goes on
from the places found so far to the children that the next link names, looks names up in objects
only, and finds the items of arrays. It need not follow every path: one with a name that the engine
takes for an operator is read otherwise, and a very long one may be too much for it. A star stands
for every name. -/
structure Follows (engine : Engine) (steps : List Segment) : Prop where
  read : engine.read (queryOf steps) = .ok (engine.chain (steps.flatMap linksOf))
  root : ∀ document, engine.Finds engine.root (engine.start document) (some document)
  child : ∀ before link, before ++ [link] <+: steps.flatMap linksOf → ∀ place places,
    engine.find (engine.chain before) place = .ok places →
      engine.find (engine.child (engine.chain before) (engine.link link)) place =
        collect (engine.find (engine.link link)) places
  field : ∀ name place value, name ≠ "*" → engine.value place = .ok value →
    engine.Finds (engine.field name) place (value.field? name)
  index : ∀ position place value item, engine.value place = .ok value →
    value.item? position = some item → engine.Finds (engine.index position) place (some item)

variable {engine : Engine} {steps : List Segment} {document value : Value} {found : Option Value}
  {before rest : List Link} {link : Link} {place : engine.Place}

theorem chain_concat : engine.chain (before ++ [link]) =
    engine.child (engine.chain before) (engine.link link) := by
  rw [chain, List.foldl_append]
  rfl

theorem Finds.first? {query : engine.Expression}
    (hfinds : engine.Finds query (engine.start document) found) :
    engine.first? query document = .ok found := by
  obtain ⟨places, hplaces, hvalues⟩ := hfinds
  rw [Engine.first?, hplaces]
  cases found with
  | none =>
      obtain rfl := List.forall₂_nil_right_iff.mp hvalues
      rfl
  | some value =>
      obtain ⟨place, _, hvalue, hrest, rfl⟩ := List.forall₂_cons_right_iff.mp hvalues
      simp only [bind, Except.bind, hvalue]
      rfl

/-- Where nothing was found, a further link finds nothing. -/
theorem Follows.finds_of_none (hfollows : engine.Follows steps)
    (hbegins : before ++ [link] <+: steps.flatMap linksOf)
    (hbefore : engine.Finds (engine.chain before) place none) :
    engine.Finds (engine.chain (before ++ [link])) place none := by
  obtain ⟨places, hplaces, hvalues⟩ := hbefore
  obtain rfl := List.forall₂_nil_right_iff.mp hvalues
  refine ⟨[], ?_, .nil⟩
  rw [chain_concat, hfollows.child before link hbegins place [] hplaces, collect_nil]

/-- From a value that was found, a further link finds what it finds there alone. -/
theorem Follows.finds_of_some (hfollows : engine.Follows steps)
    (hbegins : before ++ [link] <+: steps.flatMap linksOf)
    (hbefore : engine.Finds (engine.chain before) place (some value))
    (hlink : ∀ place, engine.value place = .ok value →
      engine.Finds (engine.link link) place found) :
    engine.Finds (engine.chain (before ++ [link])) place found := by
  obtain ⟨places, hplaces, hvalues⟩ := hbefore
  obtain ⟨parent, _, hvalue, hrest, rfl⟩ := List.forall₂_cons_right_iff.mp hvalues
  obtain rfl := List.forall₂_nil_right_iff.mp hrest
  rw [Finds, chain_concat, hfollows.child before link hbegins place [parent] hplaces,
    collect_singleton]
  exact hlink parent hvalue

/-- A link with a name leads from a node to its member; one with an index leads to an item, if there
is one. -/
theorem Follows.finds_link (hfollows : engine.Follows steps)
    (hname : ∀ name, link = .field name → name ≠ "*")
    (hchild : link.child? value = none → ∃ name, link = .field name)
    (hvalue : engine.value place = .ok value) :
    engine.Finds (engine.link link) place (link.child? value) := by
  cases link with
  | field name => exact hfollows.field name place value (hname name rfl) hvalue
  | index position =>
      cases hitem : value.item? position with
      | none =>
          obtain ⟨_, ⟨⟩⟩ := hchild hitem
      | some item =>
          rw [Link.child?, hitem]
          exact hfollows.index position place value item hvalue hitem

theorem isPrefix_of_append (hlinks : before ++ link :: rest = steps.flatMap linksOf) :
    before ++ [link] <+: steps.flatMap linksOf :=
  ⟨rest, by rw [List.append_assoc, List.singleton_append, hlinks]⟩

/-- Once nothing is found, the rest of the path finds nothing either. -/
theorem Follows.finds_nothing (hfollows : engine.Follows steps)
    (hlinks : before ++ rest = steps.flatMap linksOf)
    (hbefore : engine.Finds (engine.chain before) place none) :
    engine.Finds (engine.chain (steps.flatMap linksOf)) place none := by
  induction rest generalizing before with
  | nil =>
      rw [← hlinks, List.append_nil]
      exact hbefore
  | cons link rest ih =>
      refine ih ?_ (hfollows.finds_of_none (isPrefix_of_append hlinks) hbefore)
      rw [List.append_assoc, List.singleton_append, hlinks]

/-- Along the links of a path an engine finds the node to which they lead, and nothing where links
with names lead nowhere. -/
theorem Follows.finds (hfollows : engine.Follows steps)
    (hnames : ∀ name, .field name ∈ steps.flatMap linksOf → name ≠ "*")
    (hlinks : before ++ rest = steps.flatMap linksOf)
    (hbefore : engine.Finds (engine.chain before) place (some value))
    (hfound : follow? value rest = none → ∀ link ∈ rest, ∃ name, link = .field name) :
    engine.Finds (engine.chain (steps.flatMap linksOf)) place (follow? value rest) := by
  induction rest generalizing before value with
  | nil =>
      rw [← hlinks, List.append_nil]
      exact hbefore
  | cons link rest ih =>
      have hnext : (before ++ [link]) ++ rest = steps.flatMap linksOf := by
        rw [List.append_assoc, List.singleton_append, hlinks]
      have hmem : link ∈ steps.flatMap linksOf := by simp [← hlinks]
      have hlink (parent : engine.Place) (hvalue : engine.value parent = .ok value) :
          engine.Finds (engine.link link) parent (link.child? value) := by
        refine hfollows.finds_link (fun name heq => hnames name (heq ▸ hmem)) ?_ hvalue
        intro hnone
        exact hfound (by rw [follow?, hnone]; rfl) link List.mem_cons_self
      have hextended := hfollows.finds_of_some (isPrefix_of_append hlinks) hbefore hlink
      rw [follow?] at hfound ⊢
      cases hchild : link.child? value with
      | none =>
          rw [hchild] at hextended
          exact hfollows.finds_nothing hnext hextended
      | some child =>
          rw [hchild] at hextended hfound
          exact ih hnext hextended fun hnone other hother =>
            hfound hnone other (List.mem_cons_of_mem link hother)

end Engine

end Assay.Query
