import TezosNode.Proofs.Decode.Lists

/-!
Which part of a value is to blame where it is refused. A fault names the elements of lists and the positions
of pairs that lead to it; members of records and items of plain lists are passed through without a name.
-/

namespace TezosNode.Decode

open Json

variable {α β γ : Type}

inductive Place where
  | element (index : Nat)
  | position (index : Nat)
  deriving DecidableEq, Repr

namespace Place

def name : Place → Fault → Fault
  | element index => .element index
  | position index => .position index

def label : Place → String
  | element index => "element " ++ Nat.repr index ++ ": "
  | position index => "array element " ++ Nat.repr index ++ ": "

theorem message_name (place : Place) (m : Fault) : (place.name m).message = place.label ++ m.message := by
  cases place <;> rfl

theorem name_inj {place place' : Place} {m other : Fault} (same : place.name m = place'.name other) :
    place = place' ∧ m = other := by
  cases place <;> cases place' <;> simp_all [name]

end Place

namespace Fault

/-- The fault as it is named by a path, the outermost place first. -/
def under (m : Fault) (path : List Place) : Fault := path.foldr Place.name m

theorem message_under (m : Fault) (path : List Place) :
    (m.under path).message = (path.map Place.label).foldr (· ++ ·) m.message := by
  induction path with
  | nil => rfl
  | cons place path ih =>
    change (place.name (m.under path)).message = place.label ++ _
    rw [Place.message_name, ih]

def Plain : Fault → Prop
  | element _ _ => False
  | position _ _ => False
  | _ => True

/-- A path and a fault without one are told apart in what they come to. -/
theorem under_inj {m other : Fault} {path way : List Place} (plain : m.Plain) (plain' : other.Plain)
    (same : m.under path = other.under way) : path = way ∧ m = other := by
  induction path generalizing way with
  | nil =>
    cases way with
    | nil => exact ⟨rfl, same⟩
    | cons place way =>
      have named : m = place.name (other.under way) := same
      rw [named] at plain
      cases place <;> exact plain.elim
  | cons place path ih =>
    cases way with
    | nil =>
      have named : other = place.name (m.under path) := same.symm
      rw [named] at plain'
      cases place <;> exact plain'.elim
    | cons place' way =>
      have named : place.name (m.under path) = place'.name (other.under way) := same
      obtain ⟨rfl, rest⟩ := Place.name_inj named
      obtain ⟨rfl, rfl⟩ := ih rest
      exact ⟨rfl, rfl⟩

end Fault

namespace Fields

/-- The next item of a list is decoded by a field, the fields before it having taken the items before it. -/
inductive NextItem (source : Source) : {α β : Type} → Fields α → List Value → Decoder β → Prop where
  | last {α β : Type} {f : Fields (β → α)} {name : String} {d : Decoder β} {absent : Option β} {g : β → α}
      {front : List Value} :
      (∀ short rest, f.take source short (front.map .ofValue ++ rest) .closed = .ok (g, rest)) →
      NextItem source (f.field name d absent) front d
  | earlier {α β γ : Type} {f : Fields (γ → α)} {name : String} {e : Decoder γ} {absent : Option γ}
      {front : List Value} {d : Decoder β} :
      NextItem source f front d → NextItem source (f.field name e absent) front d

def NextMember (f : Fields α) (source : Source) (front : List (String × Value)) (key : String)
    (d : Decoder β) : Prop :=
  ∃ slots, f.fill source f.blank (buffered front) = .ok slots ∧ ∃ place : β → f.Slots,
    ∀ document, f.put source slots key document = some ((d.decode source document).map place)

theorem NextItem.stops {f : Fields α} {source : Source} {front : List Value} {d : Decoder β}
    (next : f.NextItem source front d) {v : Value} {fault : Fault}
    (refused : d.decode source (.ofValue v) = .error fault) (short : Nat → Fault) (back : List Value) :
    f.take source short ((front ++ v :: back).map .ofValue) .closed = .error fault := by
  induction next with
  | @last α β f name d absent g front taken =>
    rw [List.map_append, List.map_cons]
    change (f.take source short _ .closed >>= _) = _
    rw [taken]
    change (d.decode source (.ofValue v) >>= _) = _
    rw [refused]
    rfl
  | @earlier α β γ f name e absent front d _ ih =>
    change (f.take source short _ .closed >>= _) = _
    rw [ih refused]
    rfl

theorem NextMember.stops {f : Fields α} {source : Source} {front : List (String × Value)} {key : String}
    {d : Decoder β} (next : f.NextMember source front key d) {v : Value} {fault : Fault}
    (refused : d.decode source (.ofValue v) = .error fault) (back : List (String × Value)) :
    f.fill source f.blank (buffered (front ++ (key, v) :: back)) = .error fault := by
  obtain ⟨slots, fills, place, put⟩ := next
  rw [buffered_append, fill_append, fills]
  change f.fill source slots (buffered ((key, v) :: back)) = _
  rw [buffered_cons]
  refine fill_stop f ?_ (buffered back)
  rw [put, refused]
  rfl

end Fields

/-- The first part of a value that is refused: the path to it, and the reason, which names no place. What
stands before it, in each list, pair or record on the way, is decoded. -/
inductive Blames : {α : Type} → Source → Decoder α → Value → List Place → Fault → Prop where
  | here {α : Type} {source : Source} {d : Decoder α} {v : Value} {m : Fault} :
      d.decode source (.ofValue v) = .error m → m.Plain → Blames source d v [] m
  | map {α β : Type} {source : Source} {d : Decoder α} {v : Value} {path : List Place} {m : Fault}
      (f : α → β) : Blames source d v path m → Blames source (d.map f) v path m
  | present {α : Type} {source : Source} {d : Decoder α} {v : Value} {path : List Place} {m : Fault} :
      v ≠ .null → Blames source d v path m → Blames source d.option v path m
  | item {α : Type} {source : Source} {d : Decoder α} {front back : List Value} {v : Value}
      {path : List Place} {m : Fault} :
      (∀ w ∈ front, ∃ a, d.decode source (.ofValue w) = .ok a) → Blames source d v path m →
      Blames source d.list (.array (front ++ v :: back)) path m
  | element {γ α : Type} {source : Source} {family : Family γ α} {front back : List Value} {v : Value}
      {path : List Place} {m : Fault} :
      (∀ w ∈ front, ∃ x, family.decoder.ofValue w = .ok x) → Blames .value family.decoder v path m →
      Blames source family.list (.array (front ++ v :: back)) (.element front.length :: path) m
  | keyedElement {α : Type} {source : Source} {setKey : String → α → α} {record : Decoder α}
      {front back : List Value} {v : Value} {path : List Place} {m : Fault} :
      (∀ w ∈ front, ∃ x, (Decoder.keyed setKey record).ofValue w = .ok x) →
      Blames .value (Decoder.keyed setKey record) v path m →
      Blames source (Decoder.keyedList setKey record) (.array (front ++ v :: back))
        (.element front.length :: path) m
  | first {α β : Type} {source : Source} {first : Decoder α} {second : Decoder β} {x y : Value}
      {rest : List Value} {path : List Place} {m : Fault} : Blames .value first x.sorted path m →
      Blames source (Decoder.pair first second) (.array (x :: y :: rest)) (.position 0 :: path) m
  | second {α β : Type} {source : Source} {first : Decoder α} {second : Decoder β} {x y : Value}
      {rest : List Value} {a : α} {path : List Place} {m : Fault} : first.ofValue x.sorted = .ok a →
      Blames .value second y.sorted path m →
      Blames source (Decoder.pair first second) (.array (x :: y :: rest)) (.position 1 :: path) m
  | member {α β : Type} {source : Source} {name key : String} {f : Fields α} {d : Decoder β}
      {front back : List (String × Value)} {v : Value} {path : List Place} {m : Fault} :
      f.NextMember source front key d → Blames source d v path m →
      Blames source (Decoder.record name f) (.object (front ++ (key, v) :: back)) path m
  | listed {α β : Type} {source : Source} {name : String} {f : Fields α} {d : Decoder β}
      {front back : List Value} {v : Value} {path : List Place} {m : Fault} :
      f.NextItem source front d → Blames source d v path m →
      Blames source (Decoder.record name f) (.array (front ++ v :: back)) path m
  | own {α β γ : Type} {source : Source} {name key : String} {own : Fields (γ → α)} [own.Lawful]
      {part : Fields γ} [part.Lawful] {d : Decoder β} {front back : List (String × Value)} {v : Value}
      {path : List Place} {m : Fault} : (∀ key ∈ part.names, key ∉ own.names) →
      own.NextMember source front key d → Blames source d v path m →
      Blames source (Decoder.flattened name own (.fields part)) (.object (front ++ (key, v) :: back)) path m
  /-- The part that is flattened into a record comes after the record's own fields. -/
  | part {α β γ : Type} {source : Source} {name key : String} {own : Fields (γ → α)} [own.Lawful]
      {part : Fields γ} [part.Lawful] {d : Decoder β} {front back : List (String × Value)} {v : Value}
      {make : γ → α} {path : List Place} {m : Fault} : (∀ key ∈ part.names, key ∉ own.names) →
      own.reads source (front ++ (key, v) :: back) = .ok make → part.NextMember .buffered front key d →
      Blames .buffered d v path m →
      Blames source (Decoder.flattened name own (.fields part)) (.object (front ++ (key, v) :: back)) path m
  | shared {γ α : Type} {source : Source} {family : Family γ α} {v : Value} {path : List Place} {m : Fault} :
      Blames .value family.common v.sorted path m → Blames source family.decoder v path m
  | chosen {γ α : Type} {source : Source} {family : Family γ α} {v : Value} {c : γ} {d : Decoder α}
      {path : List Place} {m : Fault} : family.common.ofValue v.sorted = .ok c →
      family.lookup? (family.tag c) = some d → Blames .value d v.sorted path m →
      Blames source family.decoder v path m

theorem elements_refused {decode : Value → Except Fault α} {front back : List Value} {v : Value} {fault : Fault}
    (before : ∀ w ∈ front, ∃ a, decode w = .ok a) (refused : decode v = .error fault) :
    elements decode (front ++ v :: back) = .error (.element front.length fault) := by
  have first : FirstRefused decode (front ++ v :: back) front.length fault :=
    firstRefused_append_iff.mpr ⟨before, refused⟩
  exact elementsFrom_error_iff.mpr ⟨front.length, fault, first, by rw [Nat.zero_add]⟩

theorem Blames.decode_eq {source : Source} {d : Decoder α} {v : Value} {path : List Place} {m : Fault}
    (blames : Blames source d v path m) (boundless : source.Boundless) :
    d.decode source (.ofValue v) = .error (m.under path) := by
  induction blames with
  | here refused _ => exact refused
  | @map α β source d v path m f _ ih =>
    change (d.decode source (.ofValue v)).map f = _
    rw [ih boundless]
    rfl
  | present there _ ih =>
    rw [Decoder.option_decode (ofValue_ne_null there), ih boundless]
    rfl
  | item before _ ih =>
    rw [Decoder.list_items _ boundless]
    exact mapM_error_iff.mpr ⟨_, firstRefused_append_iff.mpr ⟨before, ih boundless⟩⟩
  | @element γ α source family front back v path m before _ ih =>
    rw [family.list_array boundless]
    exact elements_refused before (ih Source.value_boundless)
  | keyedElement before _ ih =>
    rw [Decoder.keyedList_array _ _ boundless]
    exact elements_refused before (ih Source.value_boundless)
  | first _ ih => exact (Decoder.pair_error_iff boundless).mpr (.first (ih Source.value_boundless))
  | second found _ ih => exact (Decoder.pair_error_iff boundless).mpr (.second found (ih Source.value_boundless))
  | @member α β source name key f d front back v path m next _ ih =>
    rw [Decoder.record_reads name f boundless, Fields.reads, next.stops (ih boundless)]
    rfl
  | @listed α β source name f d front back v path m next _ ih =>
    rw [Decoder.record_items name f boundless, next.stops (ih boundless)]
    rfl
  | @own α β γ source name key own _ part _ d front back v path m apart next _ ih =>
    rw [Decoder.flattened_reads name own part apart boundless, Fields.reads, next.stops (ih boundless)]
    rfl
  | @part α β γ source name key own _ part _ d front back v make path m apart read next _ ih =>
    rw [Decoder.flattened_reads name own part apart boundless, read]
    have stops : part.reads .buffered (front ++ (key, v) :: back) = .error (m.under path) := by
      rw [Fields.reads, next.stops (ih Source.buffered_boundless)]
      rfl
    change (part.reads .buffered (front ++ (key, v) :: back) >>= _) = _
    rw [stops]
    rfl
  | @shared γ α source family v path m _ ih =>
    rw [family.decoder_ofValue boundless, Family.ofValue]
    change (family.common.decode .value (.ofValue v.sorted) >>= _) = _
    rw [ih Source.value_boundless]
    rfl
  | @chosen γ α source family v c d path m probed found _ ih =>
    rw [family.decoder_ofValue boundless, Family.ofValue, probed]
    simp only [bind, Except.bind, found]
    exact ih Source.value_boundless

theorem Blames.plain {source : Source} {d : Decoder α} {v : Value} {path : List Place} {m : Fault}
    (blames : Blames source d v path m) : m.Plain := by
  induction blames with
  | here _ plain => exact plain
  | _ => assumption

/-- One part at most is to blame. -/
theorem Blames.unique {source : Source} {d : Decoder α} {v : Value} {path way : List Place} {m other : Fault}
    (boundless : source.Boundless) (blames : Blames source d v path m)
    (again : Blames source d v way other) : path = way ∧ m = other := by
  have same := (blames.decode_eq boundless).symm.trans (again.decode_eq boundless)
  exact Fault.under_inj blames.plain again.plain (Except.error.inj same)

end TezosNode.Decode
