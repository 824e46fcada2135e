import Mathlib.Data.List.Nodup
import TezosNode.Proofs.Decode.Sheets

namespace TezosNode.Decode

open Json

theorem toOption_bind {α β : Type} (result : Except Fault α) (next : α → Except Fault β) :
    (result >>= next).toOption = result.toOption.bind fun a => (next a).toOption := by
  cases result <;> rfl

theorem toOption_map {α β : Type} (result : Except Fault α) (f : α → β) :
    (result.map f).toOption = result.toOption.map f := by
  cases result <;> rfl

namespace Fields

variable {α β : Type}

def add (f : Fields α) (source : Source) (slots? : Option f.Slots) (member : String × Document) :
    Option f.Slots :=
  slots?.bind fun slots =>
    match f.put source slots member.1 member.2 with
    | some filled => filled.toOption
    | none => some slots

theorem add_put (f : Fields α) {source : Source} {slots : f.Slots} (member : String × Document)
    {result : Except Fault f.Slots} (put : f.put source slots member.1 member.2 = some result) :
    f.add source (some slots) member = result.toOption := by
  rw [add, Option.bind_some, put]

theorem add_skip (f : Fields α) {source : Source} {slots : f.Slots} (member : String × Document)
    (put : f.put source slots member.1 member.2 = none) :
    f.add source (some slots) member = some slots := by
  rw [add, Option.bind_some, put]

theorem foldl_add_none (f : Fields α) (source : Source) (members : List (String × Document)) :
    members.foldl (f.add source) none = none := by
  induction members with
  | nil => rfl
  | cons member members ih => exact ih

theorem fill_toOption (f : Fields α) (source : Source) (slots : f.Slots)
    (members : List (String × Document)) :
    (f.fill source slots members).toOption = members.foldl (f.add source) (some slots) := by
  induction members generalizing slots with
  | nil => rfl
  | cons member members ih =>
    obtain ⟨key, document⟩ := member
    rw [List.foldl_cons]
    cases put : f.put source slots key document with
    | none => rw [fill_skip f put, f.add_skip _ put, ih]
    | some result =>
      rw [f.add_put _ put]
      cases result with
      | ok next =>
        rw [fill_next f put, ih]
        rfl
      | error fault =>
        rw [fill_stop f put]
        exact (f.foldl_add_none source members).symm

/-- Members of different keys may change places. -/
class Commutes (f : Fields α) : Prop where
  add_comm : ∀ source slots a b, a.1 ≠ b.1 →
    f.add source (f.add source (some slots) a) b = f.add source (f.add source (some slots) b) a

instance (value : α) : Commutes (make value) := ⟨fun _ _ _ _ _ => rfl⟩

section

variable {f : Fields (β → α)} {name : String} {d : Decoder β} {absent : Option β} {source : Source}
  {slots : f.Slots} {slot : Option β} {member : String × Document}

theorem add_field_other (other : member.1 ≠ name) :
    (f.field name d absent).add source (some (slots, slot)) member =
      (f.add source (some slots) member).map fun next => (next, slot) := by
  cases put : f.put source slots member.1 member.2 with
  | none =>
    rw [f.add_skip _ put]
    exact add_skip _ member (put_field_other other put slot)
  | some result =>
    rw [f.add_put _ put, ← toOption_map]
    exact add_put _ member (put_field_other other put slot)

theorem add_field_fresh (same : member.1 = name) :
    (f.field name d absent).add source (some (slots, none)) member =
      (d.decode source member.2).toOption.map fun b => (slots, some b) := by
  obtain ⟨key, document⟩ := member
  subst same
  rw [← toOption_map]
  exact add_put _ (key, document) (put_field_same rfl)

theorem add_field_full (same : member.1 = name) (b : β) :
    (f.field name d absent).add source (some (slots, some b)) member = none := by
  obtain ⟨key, document⟩ := member
  subst same
  exact add_put _ (key, document) (put_field_again document b)

theorem add_field_others {a b : String × Document} (first : a.1 ≠ name) (second : b.1 ≠ name) :
    (f.field name d absent).add source ((f.field name d absent).add source (some (slots, slot)) a) b =
      (f.add source (f.add source (some slots) a) b).map fun next => (next, slot) := by
  rw [add_field_other first]
  cases f.add source (some slots) a with
  | none => rfl
  | some next => exact add_field_other second

theorem add_field_swap {a b : String × Document} (here : a.1 = name) (other : b.1 ≠ name) :
    (f.field name d absent).add source ((f.field name d absent).add source (some (slots, slot)) a) b =
      (f.field name d absent).add source ((f.field name d absent).add source (some (slots, slot)) b)
        a := by
  rw [add_field_other other]
  cases slot with
  | some filled =>
    rw [add_field_full here]
    cases f.add source (some slots) b with
    | none => rfl
    | some next => exact (add_field_full here filled).symm
  | none =>
    rw [add_field_fresh here]
    cases added : f.add source (some slots) b with
    | none =>
      cases (d.decode source a.2).toOption with
      | none => rfl
      | some value =>
        refine (add_field_other other).trans ?_
        rw [added]
        rfl
    | some next =>
      refine Eq.trans ?_ (add_field_fresh here).symm
      cases (d.decode source a.2).toOption with
      | none => rfl
      | some value =>
        refine (add_field_other other).trans ?_
        rw [added]
        rfl

instance (f : Fields (β → α)) [Commutes f] (name : String) (d : Decoder β) (absent : Option β) :
    Commutes (f.field name d absent) := by
  constructor
  rintro source ⟨slots, slot⟩ a b apart
  by_cases first : a.1 = name
  · have second : b.1 ≠ name := fun same => apart (first.trans same.symm)
    exact add_field_swap first second
  · by_cases second : b.1 = name
    · exact (add_field_swap second first).symm
    · have inner : f.add source (f.add source (some slots) a) b =
          f.add source (f.add source (some slots) b) a := Commutes.add_comm source slots a b apart
      refine (add_field_others first second).trans ?_
      rw [inner]
      exact (add_field_others second first).symm

instance (f : Fields (β → α)) [Commutes f] (name : String) (d : Decoder β) :
    Commutes (f.required name d) := inferInstanceAs (Commutes (f.field ..))

instance (f : Fields (β → α)) [Commutes f] (name : String) (d : Decoder β) (absent : β) :
    Commutes (f.orElse name d absent) := inferInstanceAs (Commutes (f.field ..))

instance (f : Fields (Option β → α)) [Commutes f] (name : String) (d : Decoder β) :
    Commutes (f.optional name d) := inferInstanceAs (Commutes (f.field ..))

end

/-- Members that repeat no key fill the same slots in any order. -/
theorem fill_perm (f : Fields α) [Commutes f] (source : Source) (slots : f.Slots)
    {members others : List (String × Document)} (perm : members.Perm others)
    (nodup : (members.map (·.1)).Nodup) :
    (f.fill source slots members).toOption = (f.fill source slots others).toOption := by
  rw [fill_toOption, fill_toOption]
  refine perm.foldl_eq' (fun a first b second slots? => ?_) (some slots)
  cases slots? with
  | none => rfl
  | some slots =>
    by_cases same : a = b
    · rw [same]
    · have apart : a.1 ≠ b.1 := fun key => same (List.inj_on_of_nodup_map nodup first second key)
      exact Commutes.add_comm source slots a b apart

end Fields

end TezosNode.Decode
