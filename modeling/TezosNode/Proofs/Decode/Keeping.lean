import TezosNode.Decode.Family
import TezosNode.Proofs.Decode.Values

/-!
Decoders that read back what was written. A value is handed on as it is written or with its members
sorted, and a text may nest no deeper than it allows; whichever way, the same comes of it. Written is
only what some value was decoded to.
-/

namespace TezosNode.Decode

open Json

inductive Form where
  | written
  | sorted

namespace Form

def apply : Form → Value → Value
  | written, v => v
  | sorted, v => v.sorted

theorem sorted_apply (form : Form) (v : Value) : (form.apply v).sorted = v.sorted := by
  cases form with
  | written => rfl
  | sorted => exact v.sorted_sorted

theorem apply_of_sorted {v : Value} (same : v.sorted = v) (form : Form) : form.apply v = v := by
  cases form with
  | written => rfl
  | sorted => exact same

theorem depth_apply_le (form : Form) (v : Value) : (form.apply v).depth ≤ v.depth := by
  cases form with
  | written => exact Nat.le_refl _
  | sorted => exact v.depth_sorted_le

theorem apply_array (form : Form) (items : List Value) :
    form.apply (.array items) = .array (items.map form.apply) := by
  cases form with
  | written => exact congrArg Value.array (List.map_id _).symm
  | sorted => exact congrArg Value.array (Value.sortedItems_eq_map items)

theorem apply_ne_null (form : Form) {v : Value} (present : v ≠ .null) : form.apply v ≠ .null := by
  cases form with
  | written => exact present
  | sorted => cases v <;> simp_all [apply, Value.sorted]

end Form

namespace Decoder

variable {α β : Type}

/-- What is written as the value is decoded to this again. -/
def Keeps (d : Decoder α) (v : Value) (a : α) : Prop :=
  ∀ (form : Form) (source : Source), source.Allows v.depth →
    d.decode source (.ofValue (form.apply v)) = .ok a

/-- Some document is decoded to this, be it of a text or of a value. -/
def Reaches (d : Decoder α) (a : α) : Prop :=
  ∃ (source : Source) (document : Document), d.decode source document = .ok a

/-- Whatever the decoder reaches, it keeps as it is written. -/
def Faithful (d : Decoder α) (write : α → Value) : Prop := ∀ a, d.Reaches a → d.Keeps (write a) a

theorem Keeps.of_sorted {d : Decoder α} {v : Value} {a : α} (same : v.sorted = v)
    (reads : ∀ source : Source, source.Allows v.depth → d.decode source (.ofValue v) = .ok a) :
    d.Keeps v a := by
  intro form source allows
  rw [form.apply_of_sorted same]
  exact reads source allows

theorem keeps_textFor (wanted : Wanted) (s : String) : (textFor wanted).Keeps (.string s) s :=
  .of_sorted rfl fun _ _ => rfl

theorem keeps_text (s : String) : text.Keeps (.string s) s := keeps_textFor .text s

theorem keeps_bool (b : Bool) : bool.Keeps (.bool b) b := .of_sorted rfl fun _ _ => rfl

theorem keeps_integer {kind : String} {low high n : Int} (fits : low ≤ n ∧ n ≤ high) :
    (integer kind low high).Keeps (.integer n) n := by
  apply Keeps.of_sorted rfl
  intro source _
  change (if low ≤ n ∧ n ≤ high then Except.ok n else _) = Except.ok n
  rw [if_pos fits]

theorem Keeps.map {d : Decoder α} {v : Value} {a : α} (keeps : d.Keeps v a) {f : α → β} {b : β}
    (same : f a = b) : (d.map f).Keeps v b := by
  intro form source allows
  change (d.decode source (.ofValue (form.apply v))).map f = _
  rw [keeps form source allows, ← same]
  rfl

theorem Keeps.refine {d : Decoder α} {v : Value} {a : α} (keeps : d.Keeps v a)
    {f : α → Except Fault β} {b : β} (accepts : f a = .ok b) : (d.refine f).Keeps v b := by
  intro form source allows
  change (d.decode source (.ofValue (form.apply v))).bind f = _
  rw [keeps form source allows]
  exact accepts

theorem Reaches.map {d : Decoder α} {f : α → β} {b : β} (reaches : (d.map f).Reaches b) :
    ∃ a, d.Reaches a ∧ f a = b := by
  obtain ⟨source, document, decoded⟩ := reaches
  obtain ⟨a, found, same⟩ := map_ok decoded
  exact ⟨a, ⟨source, document, found⟩, same⟩

theorem Reaches.refine {d : Decoder α} {f : α → Except Fault β} {b : β}
    (reaches : (d.refine f).Reaches b) : ∃ a, d.Reaches a ∧ f a = .ok b := by
  obtain ⟨source, document, decoded⟩ := reaches
  obtain ⟨a, found, accepts⟩ := bind_ok decoded
  exact ⟨a, ⟨source, document, found⟩, accepts⟩

theorem keeps_fromText {read : String → Except Fault α} {s : String} {a : α} (reads : read s = .ok a) :
    (fromText read).Keeps (.string s) a := (keeps_text s).refine reads

theorem keeps_null (d : Decoder α) : d.option.Keeps .null none := .of_sorted rfl fun _ _ => rfl

theorem option_decode {d : Decoder α} {source : Source} {document : Document}
    (present : document ≠ .null) :
    d.option.decode source document = (d.decode source document).map some := by
  cases document with
  | null => exact absurd rfl present
  | _ => rfl

theorem Keeps.some {d : Decoder α} {v : Value} {a : α} (keeps : d.Keeps v a) (present : v ≠ .null) :
    d.option.Keeps v (some a) := by
  intro form source allows
  have there : Document.ofValue (form.apply v) ≠ .null := ofValue_ne_null (form.apply_ne_null present)
  rw [option_decode there, keeps form source allows]
  rfl

theorem of_option_decode {d : Decoder α} {source : Source} {document : Document} {a : α}
    (decoded : d.option.decode source document = .ok (some a)) :
    document ≠ .null ∧ d.decode source document = .ok a := by
  have present : document ≠ .null := by
    rintro rfl
    cases decoded
  rw [option_decode present] at decoded
  obtain ⟨b, found, same⟩ := map_ok decoded
  cases same
  exact ⟨present, found⟩

theorem Reaches.some {d : Decoder α} {a : α} (reaches : d.option.Reaches (some a)) : d.Reaches a := by
  obtain ⟨source, document, decoded⟩ := reaches
  exact ⟨source, document, (of_option_decode decoded).2⟩

theorem mapM_ok {decode : Document → Except Fault α} {write : α → Document} {as : List α}
    (all : ∀ a ∈ as, decode (write a) = .ok a) : (as.map write).mapM decode = .ok as := by
  induction as with
  | nil => rfl
  | cons a as ih =>
    rw [List.map_cons, List.mapM_cons, all a (by simp), ih fun b member => all b (by simp [member])]
    rfl

theorem of_mapM_ok {decode : β → Except Fault α} {items : List β} {as : List α}
    (done : items.mapM decode = .ok as) {a : α} (member : a ∈ as) :
    ∃ item ∈ items, decode item = .ok a := by
  induction items generalizing as with
  | nil =>
    cases done
    cases member
  | cons item items ih =>
    rw [List.mapM_cons] at done
    obtain ⟨first, found, done⟩ := bind_ok done
    obtain ⟨others, rest, done⟩ := bind_ok done
    cases done
    rcases List.mem_cons.mp member with rfl | later
    · exact ⟨item, by simp, found⟩
    · obtain ⟨item, present, decoded⟩ := ih rest later
      exact ⟨item, by simp [present], decoded⟩

theorem keeps_list {d : Decoder α} {write : α → Value} {as : List α}
    (all : ∀ a ∈ as, d.Keeps (write a) a) : d.list.Keeps (.array (as.map write)) as := by
  intro form source allows
  obtain ⟨inner, entered, room⟩ := allows.enter
  have items : (as.map (Document.ofValue ∘ form.apply ∘ write)).mapM (d.decode inner) = .ok as := by
    refine mapM_ok fun a member => all a member form inner (room.less ?_)
    exact Value.depth_le_itemsDepth (List.mem_map_of_mem member)
  rw [form.apply_array, Document.ofValue, Document.ofItems_eq_map, list]
  simp only [entered, List.map_map]
  change (do
    let items ← List.mapM (d.decode inner) (as.map (Document.ofValue ∘ form.apply ∘ write)); _) = _
  rw [items]
  rfl

theorem Reaches.list {d : Decoder α} {as : List α} (reaches : d.list.Reaches as) :
    ∀ a ∈ as, d.Reaches a := by
  intro a member
  obtain ⟨source, document, decoded⟩ := reaches
  cases document with
  | array items ending =>
    obtain ⟨inner, _, decoded⟩ := bind_ok decoded
    obtain ⟨all, found, decoded⟩ := bind_ok decoded
    obtain ⟨_, _, decoded⟩ := bind_ok decoded
    cases decoded
    obtain ⟨item, _, decoded⟩ := of_mapM_ok found member
    exact ⟨inner, item, decoded⟩
  | _ => cases decoded

theorem keeps_any (v : Value) : any.Keeps v v.sorted := by
  intro form source allows
  rw [← form.sorted_apply v]
  exact anyValue_ofValue _ (allows.less (form.depth_apply_le v))

theorem Reaches.any {v : Value} (reaches : any.Reaches v) : v.sorted = v := by
  obtain ⟨source, document, decoded⟩ := reaches
  exact anyValue_sorted document decoded

theorem faithful_any : any.Faithful id := by
  intro v reaches
  have keeps := keeps_any v
  rwa [reaches.any] at keeps

theorem Reaches.present {v : Value} (reaches : Decoder.any.option.Reaches (.some v)) : v ≠ .null := by
  obtain ⟨source, document, decoded⟩ := reaches
  obtain ⟨there, same⟩ := of_option_decode decoded
  exact anyValue_ne_null there same

theorem variant_keeps {d : Decoder α} {v : Value} {a : α} (keeps : d.Keeps v a) {variant : α → β} :
    some ((d.ofValue v.sorted).map variant) = some (.ok (variant a)) := by
  have decoded : d.ofValue v.sorted = .ok a := keeps .sorted .value trivial
  rw [decoded]
  rfl

theorem variant_returns {d : Decoder α} {write : α → Value} (faithful : d.Faithful write)
    (variant : α → β) (injective : ∀ a b, variant a = variant b → a = b) {v : Value} {a : α}
    (decoded : some ((d.ofValue v).map variant) = some (.ok (variant a))) :
    some ((d.ofValue (write a).sorted).map variant) = some (.ok (variant a)) := by
  cases found : d.ofValue v with
  | error fault =>
    rw [found] at decoded
    cases decoded
  | ok b =>
    rw [found] at decoded
    have same := injective b a (Except.ok.inj (Option.some.inj decoded))
    subst same
    exact variant_keeps (faithful b ⟨.value, .ofValue v, found⟩)

end Decoder

theorem elementsFrom_ok {α : Type} {decode : Value → Except Fault α} {write : α → Value} {as : List α}
    (index : Nat) (all : ∀ a ∈ as, decode (write a) = .ok a) :
    elementsFrom index decode (as.map write) = .ok as := by
  rw [elementsFrom_iff, List.forall₂_map_left_iff, List.forall₂_same]
  exact all

theorem of_elementsFrom_ok {α : Type} {decode : Value → Except Fault α} {values : List Value}
    {as : List α} {index : Nat} (done : elementsFrom index decode values = .ok as) {a : α}
    (member : a ∈ as) : ∃ v, decode v = .ok a := by
  obtain ⟨place, bound, rfl⟩ := List.getElem_of_mem member
  obtain ⟨same, each⟩ := List.forall₂_iff_get.mp (elementsFrom_iff.mp done)
  exact ⟨_, each place (same ▸ bound) bound⟩

namespace Family

open Decoder

variable {γ α : Type} {family : Family γ α}

theorem keeps {v : Value} {x : α} (decodes : family.ofValue v.sorted = .ok x) :
    family.decoder.Keeps v x := (keeps_any v).refine decodes

theorem of_reaches {x : α} (reaches : family.decoder.Reaches x) : ∃ v, family.ofValue v = .ok x := by
  obtain ⟨v, _, decoded⟩ := Reaches.refine reaches
  exact ⟨v, decoded⟩

theorem keeps_list {write : α → Value} {xs : List α}
    (all : ∀ x ∈ xs, family.ofValue (write x).sorted = .ok x) :
    family.list.Keeps (.array (xs.map write)) xs := by
  have value := (keeps_any (.array (xs.map write))).some nofun
  refine value.refine ?_
  change elementsFrom 0 family.ofValue (Value.sortedItems (xs.map write)) = .ok xs
  rw [Value.sortedItems_eq_map, List.map_map]
  exact elementsFrom_ok 0 all

theorem of_reaches_list {xs : List α} (reaches : family.list.Reaches xs) :
    ∀ x ∈ xs, ∃ v, family.ofValue v = .ok x := by
  intro x member
  obtain ⟨v?, _, decoded⟩ := Reaches.refine reaches
  cases v? with
  | none =>
    cases decoded
    cases member
  | some v =>
    cases v with
    | array items => exact of_elementsFrom_ok decoded member
    | _ => cases decoded

theorem faithful {write : α → Value}
    (returns : ∀ v x, family.ofValue v = .ok x → family.ofValue (write x).sorted = .ok x) :
    family.decoder.Faithful write := by
  intro x reaches
  obtain ⟨v, decoded⟩ := Family.of_reaches reaches
  exact keeps (returns v x decoded)

theorem faithful_list {write : α → Value}
    (returns : ∀ v x, family.ofValue v = .ok x → family.ofValue (write x).sorted = .ok x) :
    family.list.Faithful fun xs => .array (xs.map write) := by
  intro xs reaches
  apply keeps_list
  intro x member
  obtain ⟨v, decoded⟩ := of_reaches_list reaches x member
  exact returns v x decoded

theorem keeps_nil (family : Family γ α) (write : α → Value) :
    family.list.Keeps (.array ([].map write)) [] := keeps_list nofun

end Family

end TezosNode.Decode
