import TezosNode.Decode.Elements
import TezosNode.Proofs.Decode.Agreement
import TezosNode.Proofs.Decode.Occurrences
import TezosNode.Proofs.Decode.Shapes

/-!
Decoding values that gain members nobody asked for. A decoder made of decoders that do not mind does not
mind either: what a record does not name is passed over by its fields, by the part that is flattened into
it, and by the shared fields that are read before it.
-/

namespace TezosNode.Decode

open Json

def Source.Boundless (source : Source) : Prop := source.enter = .ok source

theorem Source.Boundless.allows {source : Source} (boundless : source.Boundless) (depth : Nat) :
    source.Allows depth := by
  cases source with
  | text room =>
    rw [Boundless, enter] at boundless
    by_cases least : room ≤ 1
    · rw [if_pos least] at boundless
      cases boundless
    · rw [if_neg least, Except.ok.injEq, text.injEq] at boundless
      omega
  | value => trivial
  | buffered => trivial

theorem Source.value_boundless : Source.value.Boundless := rfl

theorem Source.buffered_boundless : Source.buffered.Boundless := rfl

/-- Whatever a value of this shape gains, what was decoded is decoded still, to the same. -/
class Decoder.Tolerates {α : Type} (d : Decoder α) (shape : Shape) : Prop where
  tolerates : ∀ {source : Source} {v w : Value} {a : α}, source.Boundless → w.sorted = w →
    shape.Gains v w → d.decode source (.ofValue v) = .ok a → d.decode source (.ofValue w) = .ok a

theorem mapM_exchange {β γ : Type} {f : β → Except Fault γ} {front back : List β} {v w : β} {cs : List γ}
    (kept : ∀ c, f v = .ok c → f w = .ok c) (done : (front ++ v :: back).mapM f = .ok cs) :
    (front ++ w :: back).mapM f = .ok cs := by
  induction front generalizing cs with
  | nil =>
    rw [List.nil_append, List.mapM_cons] at done ⊢
    obtain ⟨c, first, rest⟩ := bind_ok done
    rw [kept c first]
    exact rest
  | cons b front ih =>
    rw [List.cons_append, List.mapM_cons] at done ⊢
    obtain ⟨c, first, rest⟩ := bind_ok done
    obtain ⟨others, more, same⟩ := bind_ok rest
    rw [first]
    change (do let others ← (front ++ w :: back).mapM f; pure (c :: others)) = _
    rw [ih more]
    exact same

theorem elementsFrom_exchange {α : Type} {decode : Value → Except Fault α} {front back : List Value}
    {v w : Value} {as : List α} {index : Nat} (kept : ∀ a, decode v = .ok a → decode w = .ok a)
    (done : elementsFrom index decode (front ++ v :: back) = .ok as) :
    elementsFrom index decode (front ++ w :: back) = .ok as := by
  rw [elementsFrom_iff] at done ⊢
  induction front generalizing as with
  | nil =>
    cases done with
    | cons found rest => exact .cons (kept _ found) rest
  | cons b front ih =>
    cases done with
    | cons found rest => exact .cons found (ih rest)

theorem ofItems_append (front : List Value) (v : Value) (back : List Value) :
    Document.ofItems (front ++ v :: back) =
      Document.ofItems front ++ .ofValue v :: Document.ofItems back := by
  simp [Document.ofItems_eq_map]

namespace Decoder

variable {α β : Type} {shape : Shape}

instance (d : Decoder α) : Tolerates d .plain :=
  ⟨fun _ _ gains _ => absurd gains Shape.not_gains_plain⟩

instance (f : α → β) (d : Decoder α) [Tolerates d shape] : Tolerates (d.map f) shape := by
  constructor
  intro source v w b boundless sorted gains decoded
  obtain ⟨a, found, rfl⟩ := map_ok decoded
  change (d.decode source (.ofValue w)).map f = _
  rw [Tolerates.tolerates boundless sorted gains found]
  rfl

instance (d : Decoder α) [Tolerates d shape] : Tolerates d.option shape := by
  constructor
  intro source v w a boundless sorted gains decoded
  obtain ⟨present, still⟩ := gains.ne_null
  rw [option_decode (ofValue_ne_null present)] at decoded
  rw [option_decode (ofValue_ne_null still)]
  obtain ⟨b, found, rfl⟩ := map_ok decoded
  rw [Tolerates.tolerates boundless sorted gains found]
  rfl

instance (d : Decoder α) [Tolerates d shape] : Tolerates d.list (.many shape) := by
  constructor
  intro source v w as boundless sorted gains decoded
  cases gains with
  | new chosen | member chosen => cases chosen
  | @item _ front back v w gains =>
    have inside : w.sorted = w := Value.sorted_array_iff.mp sorted w (by simp)
    rw [list_array d boundless, ofItems_append] at decoded ⊢
    exact mapM_exchange (fun a => Tolerates.tolerates boundless inside gains) decoded

theorem any_sorted {source : Source} {v : Value} (boundless : source.Boundless) (same : v.sorted = v) :
    any.decode source (.ofValue v) = .ok v := by
  have known := anyValue_ofValue v (boundless.allows v.depth)
  rwa [same] at known

theorem refine_any_tolerates {read : Value → Except Fault α}
    (kept : ∀ {v w a}, w.sorted = w → shape.Gains v w → read v = .ok a → read w = .ok a) :
    Tolerates (any.refine read) shape := by
  constructor
  intro source v w a boundless sorted gains decoded
  change (any.decode source _ >>= read) = _ at decoded
  change (any.decode source _ >>= read) = _
  rw [any_sorted boundless (gains.sorted sorted)] at decoded
  rw [any_sorted boundless sorted]
  exact kept sorted gains decoded

theorem refine_any_option_tolerates {read : Option Value → Except Fault α}
    (kept : ∀ {v w a}, w.sorted = w → shape.Gains v w → read (some v) = .ok a → read (some w) = .ok a) :
    Tolerates (any.option.refine read) shape := by
  constructor
  intro source v w a boundless sorted gains decoded
  obtain ⟨present, still⟩ := gains.ne_null
  change (any.option.decode source _ >>= read) = _ at decoded
  change (any.option.decode source _ >>= read) = _
  rw [option_decode (ofValue_ne_null present), any_sorted boundless (gains.sorted sorted)] at decoded
  rw [option_decode (ofValue_ne_null still), any_sorted boundless sorted]
  exact kept sorted gains decoded

end Decoder

namespace Fields

variable {α β : Type}

/-- Fields with these names and shapes, that are filled by a member, or by an item of a list, as well
after a gain inside it. -/
class Tolerates (f : Fields α) (layout : Layout) : Prop where
  names : f.names = layout.map (·.1)
  put : ∀ {source : Source} {slots next : f.Slots} {key : String} {inner : Shape} {v w : Value},
    source.Boundless → w.sorted = w → layout.shape? key = some inner → inner.Gains v w →
    f.put source slots key (.ofValue v) = some (.ok next) →
    f.put source slots key (.ofValue w) = some (.ok next)
  take : ∀ {source : Source} {short : Nat → Fault} {front back : List Value} {name : String}
    {inner : Shape} {v w : Value} {taken : α × List Document},
    source.Boundless → w.sorted = w → layout[front.length]? = some (name, inner) → inner.Gains v w →
    f.take source short (Document.ofItems (front ++ v :: back)) .closed = .ok taken →
    f.take source short (Document.ofItems (front ++ w :: back)) .closed = .ok taken
  /-- What stands behind the fields is not looked at. -/
  past : ∀ {source : Source} {short : Nat → Fault} {ending : ListEnd} {front rest : List Document}
    {a : α} {left : List Document}, front.length = layout.length →
    f.take source short (front ++ rest) ending = .ok (a, left) →
    ∀ other, f.take source short (front ++ other) ending = .ok (a, other)

instance (a : α) : Tolerates (make a) .blank where
  names := rfl
  put _ _ named := by cases named
  take _ _ named := by cases named
  past none taken other := by
    rw [List.length_eq_zero_iff.mp none, List.nil_append] at taken ⊢
    cases taken
    rfl

section

variable {f : Fields (β → α)} {layout : Layout} {name : String} {d : Decoder β} {shape : Shape}
  {absent : Option β}

theorem put_field_tolerates [f.Tolerates layout] [d.Tolerates shape] {source : Source}
    {slots next : f.Slots × Option β} {key : String} {inner : Shape} {v w : Value}
    (boundless : source.Boundless) (sorted : w.sorted = w)
    (named : (layout.field name shape).shape? key = some inner) (gains : inner.Gains v w)
    (filled : (f.field name d absent).put source slots key (.ofValue v) = some (.ok next)) :
    (f.field name d absent).put source slots key (.ofValue w) = some (.ok next) := by
  obtain ⟨slots, slot⟩ := slots
  rw [Layout.shape?_field] at named
  by_cases same : key = name
  · subst same
    rw [if_pos rfl] at named
    cases named
    cases slot with
    | some b =>
      rw [put_field_again] at filled
      cases filled
    | none =>
      rw [put_field_same rfl] at filled ⊢
      obtain ⟨b, found, rfl⟩ := map_ok (Option.some.inj filled)
      rw [Decoder.Tolerates.tolerates boundless sorted gains found]
      rfl
  · rw [if_neg same] at named
    rw [put_field_other same rfl] at filled ⊢
    obtain ⟨result, put, done⟩ := Option.map_eq_some_iff.mp filled
    obtain ⟨after, rfl, rfl⟩ := map_ok done
    rw [Tolerates.put boundless sorted named gains put]
    rfl

theorem take_field_tolerates [f.Tolerates layout] [d.Tolerates shape] {source : Source}
    {short : Nat → Fault} {front back : List Value} {wanted : String} {inner : Shape} {v w : Value}
    {taken : α × List Document} (boundless : source.Boundless) (sorted : w.sorted = w)
    (named : (layout.field name shape)[front.length]? = some (wanted, inner)) (gains : inner.Gains v w)
    (took : (f.field name d absent).take source short (Document.ofItems (front ++ v :: back)) .closed =
      .ok taken) :
    (f.field name d absent).take source short (Document.ofItems (front ++ w :: back)) .closed =
      .ok taken := by
  obtain ⟨⟨g, left⟩, first, rest⟩ := bind_ok took
  change (f.take source short _ .closed >>= _) = _
  rcases Nat.lt_trichotomy front.length layout.length with before | last | beyond
  · rw [Layout.field, List.getElem?_append_left before] at named
    rw [Tolerates.take boundless sorted named gains first]
    exact rest
  · rw [Layout.field, List.getElem?_append_right (Nat.le_of_eq last.symm), last, Nat.sub_self] at named
    cases named
    have size : (Document.ofItems front).length = layout.length := by
      rw [Document.ofItems_eq_map, List.length_map, last]
    rw [ofItems_append] at first ⊢
    have again := Tolerates.past size first
    rw [again] at first
    cases first
    obtain ⟨b, found, rest⟩ := bind_ok rest
    rw [again]
    change (d.decode source (.ofValue w) >>= _) = _
    rw [Decoder.Tolerates.tolerates boundless sorted gains found]
    exact rest
  · rw [Layout.field, List.getElem?_eq_none (by simp; omega)] at named
    cases named

theorem past_field_tolerates [f.Tolerates layout] {source : Source} {short : Nat → Fault}
    {ending : ListEnd} {front rest : List Document} {a : α} {left : List Document}
    (size : front.length = (layout.field name shape).length)
    (took : (f.field name d absent).take source short (front ++ rest) ending = .ok (a, left))
    (other : List Document) :
    (f.field name d absent).take source short (front ++ other) ending = .ok (a, other) := by
  rw [Layout.field, List.length_append, List.length_singleton] at size
  rcases List.eq_nil_or_concat front with rfl | ⟨front, item, rfl⟩
  · cases size
  · rw [List.concat_eq_append, List.length_append, List.length_singleton, Nat.add_right_cancel_iff] at size
    rw [List.concat_eq_append, List.append_assoc] at took ⊢
    obtain ⟨⟨g, behind⟩, first, rest⟩ := bind_ok took
    have again := Tolerates.past size first
    rw [again] at first
    cases first
    obtain ⟨b, found, done⟩ := bind_ok rest
    cases done
    change (f.take source short _ ending >>= _) = _
    rw [again]
    change (d.decode source item >>= _) = _
    rw [found]
    rfl

end

instance (f : Fields (β → α)) {layout : Layout} [f.Tolerates layout] (name : String) (d : Decoder β)
    {shape : Shape} [d.Tolerates shape] (absent : Option β) :
    (f.field name d absent).Tolerates (layout.field name shape) where
  names := by
    have others : f.names = layout.map (·.1) := Tolerates.names
    change f.names ++ [name] = _
    rw [others, Layout.field, List.map_append]
    rfl
  put := put_field_tolerates
  take := take_field_tolerates
  past := past_field_tolerates

instance (f : Fields (β → α)) {layout : Layout} [f.Tolerates layout] (name : String) (d : Decoder β)
    {shape : Shape} [d.Tolerates shape] : (f.required name d).Tolerates (layout.field name shape) :=
  inferInstanceAs ((f.field ..).Tolerates _)

instance (f : Fields (β → α)) {layout : Layout} [f.Tolerates layout] (name : String) (d : Decoder β)
    {shape : Shape} [d.Tolerates shape] (absent : β) :
    (f.orElse name d absent).Tolerates (layout.field name shape) :=
  inferInstanceAs ((f.field ..).Tolerates _)

instance (f : Fields (Option β → α)) {layout : Layout} [f.Tolerates layout] (name : String)
    (d : Decoder β) {shape : Shape} [d.Tolerates shape] :
    (f.optional name d).Tolerates (layout.field name shape) :=
  inferInstanceAs ((f.field ..).Tolerates _)

theorem fill_append (f : Fields α) (source : Source) (slots : f.Slots)
    (front back : List (String × Document)) :
    f.fill source slots (front ++ back) =
      f.fill source slots front >>= fun filled => f.fill source filled back := by
  induction front generalizing slots with
  | nil => rfl
  | cons member front ih =>
    obtain ⟨key, document⟩ := member
    rw [List.cons_append, fill, fill]
    cases f.put source slots key document with
    | none => exact ih slots
    | some result =>
      cases result with
      | error fault => rfl
      | ok next => exact ih next

theorem buffered_append (front back : List (String × Value)) :
    buffered (front ++ back) = buffered front ++ buffered back := List.map_append

theorem unnamed_iff (f : Fields α) (layout : Layout) [tolerates : f.Tolerates layout] {key : String} :
    layout.shape? key = none ↔ key ∉ f.names := by
  rw [tolerates.names]
  exact Layout.shape?_eq_none_iff

section

variable {f : Fields α} [f.Lawful] {layout : Layout} [f.Tolerates layout] {source : Source}
  {slots filled : f.Slots} {key : String}

theorem fill_unknown (unnamed : layout.shape? key = none) (document : Document)
    (members : List (String × Document)) :
    f.fill source slots ((key, document) :: members) = f.fill source slots members :=
  fill_skip f (put_of_not_mem f ((f.unnamed_iff layout).mp unnamed) ..) members

theorem fill_known {inner : Shape} {v w : Value} (boundless : source.Boundless) (sorted : w.sorted = w)
    (named : layout.shape? key = some inner) (gains : inner.Gains v w) {members : List (String × Document)}
    (fills : f.fill source slots ((key, .ofValue v) :: members) = .ok filled) :
    f.fill source slots ((key, .ofValue w) :: members) = .ok filled := by
  have known : key ∈ f.names := by
    by_contra missing
    rw [(f.unnamed_iff layout).mpr missing] at named
    cases named
  obtain ⟨result, put⟩ := put_of_mem f known source slots (.ofValue v)
  cases result with
  | error fault =>
    rw [fill_stop f put] at fills
    cases fills
  | ok next =>
    rw [fill_next f put] at fills
    rw [fill_next f (Tolerates.put boundless sorted named gains put)]
    exact fills

theorem fill_tolerates {whole : Layout} {before after : List (String × Value)}
    (agree : ∀ key inner, layout.shape? key = some inner → whole.shape? key = some inner)
    (boundless : source.Boundless) (sorted : (Value.object after).sorted = .object after)
    (gains : Shape.Gains (.record whole) (.object before) (.object after))
    (fills : f.fill source slots (buffered before) = .ok filled) :
    f.fill source slots (buffered after) = .ok filled := by
  cases gains with
  | @new _ front back _ key value chosen unnamed =>
    cases chosen
    have missing : layout.shape? key = none := by
      cases named : layout.shape? key with
      | none => rfl
      | some inner =>
        rw [agree key inner named] at unnamed
        cases unnamed
    rw [buffered_append, fill_append] at fills ⊢
    obtain ⟨between, first, rest⟩ := bind_ok fills
    rw [first]
    exact (fill_unknown missing _ _).trans rest
  | @member _ inner front back _ key v w chosen named gains =>
    cases chosen
    have inside : w.sorted = w := (Value.sorted_object_iff.mp sorted).2 (key, w) (by simp)
    rw [buffered_append, fill_append] at fills ⊢
    obtain ⟨between, first, rest⟩ := bind_ok fills
    rw [first]
    -- the gain may be inside a member of another part of the record
    cases own : layout.shape? key with
    | none =>
      have skipped : f.fill source between (buffered back) = .ok filled := by
        rwa [buffered_cons, fill_unknown own] at rest
      exact (fill_unknown own _ _).trans skipped
    | some shape =>
      cases named.symm.trans (agree key shape own)
      exact fill_known boundless inside own gains rest

end

end Fields

theorem ok_of_toOption {α : Type} {result : Except Fault α} {a : α} (known : result.toOption = some a) :
    result = .ok a := by
  cases result with
  | error fault => cases known
  | ok b => rw [Option.some.inj known]

namespace Decoder

variable {α γ : Type}

theorem record_object_tolerates (name : String) (f : Fields α) [f.Lawful] {layout whole : Layout}
    [f.Tolerates layout]
    (agree : ∀ key inner, layout.shape? key = some inner → whole.shape? key = some inner)
    {source : Source} (boundless : source.Boundless) {before after : List (String × Value)}
    (sorted : (Value.object after).sorted = .object after)
    (gains : Shape.Gains (.record whole) (.object before) (.object after)) {a : α}
    (decoded : (record name f).decode source (.ofValue (.object before)) = .ok a) :
    (record name f).decode source (.ofValue (.object after)) = .ok a := by
  obtain ⟨inner, entered, _, was⟩ := record_object name f before (boundless.allows _)
  obtain ⟨same, again, _, is⟩ := record_object name f after (boundless.allows _)
  cases entered.symm.trans boundless
  cases again.symm.trans boundless
  rw [was] at decoded
  obtain ⟨filled, fills, finished⟩ := bind_ok decoded
  rw [is, Fields.fill_tolerates agree boundless sorted gains fills]
  exact finished

instance (name : String) (f : Fields α) [f.Lawful] {layout : Layout} [f.Tolerates layout] :
    Tolerates (record name f) (.record layout) := by
  constructor
  intro source v w a boundless sorted gains decoded
  cases gains with
  | new chosen unnamed =>
    exact record_object_tolerates name f (fun _ _ => id) boundless sorted (.new chosen unnamed) decoded
  | member chosen named inner =>
    exact record_object_tolerates name f (fun _ _ => id) boundless sorted (.member chosen named inner) decoded
  | @listed _ inner front back named v w there gains =>
    have inside : w.sorted = w := Value.sorted_array_iff.mp sorted w (by simp)
    have known := congrArg Except.toOption decoded
    rw [record_array name f boundless] at known
    obtain ⟨taken, took, done⟩ := Option.bind_eq_some_iff.mp known
    apply ok_of_toOption
    rw [record_array name f boundless,
      Fields.Tolerates.take boundless inside there gains (ok_of_toOption took)]
    exact done

theorem record_fills {name : String} {f : Fields α} {members : List (String × Value)} {a : α}
    (decoded : (record name f).ofValue (.object members) = .ok a) :
    ∃ filled, f.fill .value f.blank (buffered members) = .ok filled ∧ f.finish filled = .ok a := by
  obtain ⟨_, entered, _, whole⟩ := record_object name f members (Source.value_boundless.allows _)
  cases entered
  rw [ofValue, whole] at decoded
  exact bind_ok decoded

theorem flattened_tolerates {name : String} {own : Fields (γ → α)} [own.Lawful] {part : Fields γ}
    [part.Lawful] (apart : ∀ key ∈ part.names, key ∉ own.names) {front back : Layout}
    [own.Tolerates front] [part.Tolerates back] :
    Tolerates (flattened name own (.fields part)) (.record (front ++ back)) := by
  constructor
  intro source v w a boundless sorted gains decoded
  have partly := front.shape?_of_back back
  have owned : ∀ key inner, front.shape? key = some inner → (front ++ back).shape? key = some inner := by
    intro key inner named
    have missing : back.shape? key = none := by
      rw [part.unnamed_iff back]
      intro shared
      have unnamed := (own.unnamed_iff front).mpr (apart key shared)
      rw [named] at unnamed
      cases unnamed
    rw [Layout.shape?_append, missing, named, Option.none_or]
  cases v with
  | object before =>
    cases w with
    | object after =>
      obtain ⟨inner, entered, _, was⟩ := flattened_object name own part apart before (boundless.allows _)
      obtain ⟨same, again, _, is⟩ := flattened_object name own part apart after (boundless.allows _)
      cases entered.symm.trans boundless
      cases again.symm.trans boundless
      rw [was] at decoded
      obtain ⟨slots, fills, decoded⟩ := bind_ok decoded
      obtain ⟨make, made, decoded⟩ := bind_ok decoded
      obtain ⟨filled, more, finished⟩ := bind_ok decoded
      rw [is, Fields.fill_tolerates owned boundless sorted gains fills]
      change (own.finish slots >>= _) = _
      rw [made]
      change (part.fill .buffered part.blank (buffered after) >>= _) = _
      rw [Fields.fill_tolerates partly Source.buffered_boundless sorted gains more]
      exact finished
    | _ => cases gains
  | _ => cases decoded

end Decoder

/-- The rows of a family, tag by tag, with what they name besides the shared fields. -/
class inductive Rows {α : Type} (common : Layout) : List (String × Decoder α) → List (String × Layout) →
    Prop where
  | nil : Rows common [] []
  | cons {tag d own members rows} : d.Tolerates (.record (own ++ common)) → Rows common members rows →
      Rows common ((tag, d) :: members) ((tag, own) :: rows)

section

variable {α : Type} {common : Layout}

instance : Rows (α := α) common [] [] := .nil

instance (tag : String) (d : Decoder α) (own : Layout) (members : List (String × Decoder α))
    (rows : List (String × Layout)) [tolerates : d.Tolerates (.record (own ++ common))]
    [rest : Rows common members rows] : Rows common ((tag, d) :: members) ((tag, own) :: rows) :=
  .cons tolerates rest

theorem Rows.find {members : List (String × Decoder α)} {rows : List (String × Layout)}
    (listed : Rows common members rows) {tag : String} {d : Decoder α}
    (found : (members.find? (·.1 = tag)).map (·.2) = some d) :
    d.Tolerates (.record ((rows.lookup tag).getD [] ++ common)) := by
  induction listed with
  | nil => cases found
  | @cons this member own members rows tolerates _ ih =>
    rw [lookup_member]
    by_cases same : this = tag
    · rw [List.find?_cons_of_pos (by simpa using same)] at found
      cases found
      rw [if_pos same.symm]
      exact tolerates
    · rw [List.find?_cons_of_neg (by simpa using same)] at found
      rw [if_neg (Ne.symm same)]
      exact ih found

end

/-- Whatever an object of the family gains, what was decoded is decoded still, to the same. -/
class Family.Tolerates {γ α : Type} (family : Family γ α) (shape : Shape) : Prop where
  tolerates : ∀ {v w : Value} {x : α}, w.sorted = w → shape.Gains v w → family.ofValue v = .ok x →
    family.ofValue w = .ok x

section

variable {γ α : Type} {shape : Shape}

theorem Fields.fill_text_told {f : Fields (String → α)} [f.Lawful] {name s : String}
    (fresh : name ∉ f.names) {slots filled : f.Slots} {members : List (String × Value)}
    (fills : (f.required name Decoder.text).fill .value (slots, none) (buffered members) =
      .ok (filled, some s)) : members.lookup name = some (.string s) := by
  obtain ⟨_, fits⟩ := (fill_field_iff fresh).mp fills
  obtain ⟨v, stands, read⟩ := fits_some_iff.mp fits
  cases text_decode_iff.mp read
  exact lookup_of_filter stands

theorem Family.tolerates_of_rows {family : Family γ α} {name : String} {fields : Fields γ}
    [fields.Lawful] {common : Layout} [fields.Tolerates common] {rows : List (String × Layout)}
    [listed : Rows common family.members rows] {tag : String}
    (shares : family.common = Decoder.record name fields)
    (told : ∀ members c, family.common.ofValue (.object members) = .ok c →
      members.lookup tag = some (.string (family.tag c))) :
    family.Tolerates (.tagged tag common rows) := by
  constructor
  intro v w x sorted gains decoded
  obtain ⟨before, after, text, rfl, rfl, tagged, chosen⟩ := gains.chosen
  obtain ⟨c, probed, decoded⟩ := bind_ok decoded
  -- the tag that was read is the one that stands in the object
  cases tagged.symm.trans (told before c probed)
  have again : family.common.ofValue (.object after) = .ok c := by
    rw [shares] at probed ⊢
    exact Decoder.record_object_tolerates name fields (Layout.shape?_of_back _ common)
      Source.value_boundless sorted chosen probed
  rw [ofValue, again]
  cases found : family.lookup? (family.tag c) with
  | none =>
    rw [found] at decoded
    simp only [bind, Except.bind, found]
    exact decoded
  | some d =>
    rw [found] at decoded
    simp only [bind, Except.bind, found]
    have tolerates := listed.find found
    exact tolerates.tolerates Source.value_boundless sorted chosen decoded

instance (family : Family γ α) [family.Tolerates shape] : family.decoder.Tolerates shape :=
  Decoder.refine_any_tolerates Family.Tolerates.tolerates

instance (family : Family γ α) [family.Tolerates shape] : family.list.Tolerates (.many shape) := by
  apply Decoder.refine_any_option_tolerates
  intro v w xs sorted gains decoded
  cases gains with
  | new chosen | member chosen => cases chosen
  | @item _ front back v w gains =>
    have inside : w.sorted = w := Value.sorted_array_iff.mp sorted w (by simp)
    exact elementsFrom_exchange (fun x => Family.Tolerates.tolerates inside gains) decoded

end

namespace Decoder

variable {α β : Type} {shape : Shape}

theorem any_list_sorted {source : Source} {items : List Value} (boundless : source.Boundless)
    (sorted : (Value.array items).sorted = .array items) :
    any.list.decode source (.ofValue (.array items)) = .ok items := by
  rw [list_array any boundless, Document.ofItems_eq_map]
  exact mapM_ok fun item member => any_sorted boundless (Value.sorted_array_iff.mp sorted item member)

instance (first : Decoder β) (second : Decoder α) [second.Tolerates shape] :
    (pair first second).Tolerates (.keyed shape) := by
  constructor
  intro source v w x boundless sorted gains decoded
  have before := gains.sorted sorted
  cases gains with
  | new chosen | member chosen => cases chosen
  | @behind _ key back v w gains =>
    have inside : w.sorted = w := Value.sorted_array_iff.mp sorted w (by simp)
    change (any.list.decode source _ >>= _) = _ at decoded
    change (any.list.decode source _ >>= _) = _
    rw [any_list_sorted boundless before] at decoded
    rw [any_list_sorted boundless sorted]
    change ((first.ofValue key).mapError (Fault.position 0) >>= _) = _ at decoded
    obtain ⟨named, found, decoded⟩ := bind_ok decoded
    obtain ⟨a, behind, same⟩ := bind_ok decoded
    have again : second.ofValue w = .ok a :=
      Tolerates.tolerates Source.value_boundless inside gains (mapError_ok behind)
    change ((first.ofValue key).mapError (Fault.position 0) >>= _) = _
    rw [found]
    change ((second.ofValue w).mapError (Fault.position 1) >>= _) = _
    rw [again]
    exact same

instance (setKey : String → α → α) (record : Decoder α) [record.Tolerates shape] :
    (keyed setKey record).Tolerates (.keyed shape) :=
  inferInstanceAs ((pair text record).map _ |>.Tolerates (.keyed shape))

instance (setKey : String → α → α) (record : Decoder α) [record.Tolerates shape] :
    (keyedList setKey record).Tolerates (.many (.keyed shape)) := by
  constructor
  intro source v w as boundless sorted gains decoded
  have before := gains.sorted sorted
  obtain ⟨present, still⟩ := gains.ne_null
  cases gains with
  | new chosen | member chosen => cases chosen
  | @item _ front back v w gains =>
    have inside : w.sorted = w := Value.sorted_array_iff.mp sorted w (by simp)
    change (any.list.option.decode source _ >>= _) = _ at decoded
    change (any.list.option.decode source _ >>= _) = _
    rw [option_decode (ofValue_ne_null present), any_list_sorted boundless before] at decoded
    rw [option_decode (ofValue_ne_null still), any_list_sorted boundless sorted]
    exact elementsFrom_exchange
      (fun a => Tolerates.tolerates (d := keyed setKey record) Source.value_boundless inside gains) decoded

end Decoder

/-- Whatever a value gains in any number of places, what was decoded is decoded still, to the same. -/
theorem Decoder.Tolerates.grows {α : Type} {d : Decoder α} {shape : Shape} (tolerates : d.Tolerates shape)
    {v w : Value} (sorted : w.sorted = w) (grows : shape.Grows v w) {a : α}
    (decoded : d.ofValue v = .ok a) : d.ofValue w = .ok a := by
  induction grows with
  | refl => exact decoded
  | tail _ last ih =>
    exact tolerates.tolerates Source.value_boundless sorted last (ih (last.sorted sorted))

end TezosNode.Decode
