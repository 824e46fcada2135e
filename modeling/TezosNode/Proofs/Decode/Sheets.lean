import TezosNode.Proofs.Decode.Fields
import TezosNode.Proofs.Decode.Keeping

/-!
Records read back. A sheet says what a record is written with, key by key; where the keys are distinct
the fields find their entries in whatever order the members stand, and a record keeps what each of its
fields keeps.
-/

namespace TezosNode.Decode

open Json

namespace Form

def members : Form → List (String × Value) → List (String × Value)
  | written, members => members
  | sorted, members => sortMembers (Value.sortedValues members)

theorem apply_object (form : Form) (members : List (String × Value)) :
    form.apply (.object members) = .object (form.members members) := by
  cases form <;> rfl

variable {members : List (String × Value)}

theorem nodup_members (form : Form) (nodup : (members.map (·.1)).Nodup) :
    ((form.members members).map (·.1)).Nodup := by
  cases form with
  | written => exact nodup
  | sorted => exact (ordered_sortMembers _).nodup

theorem lookup_members (form : Form) (nodup : (members.map (·.1)).Nodup) (key : String) :
    (form.members members).lookup key = (members.lookup key).map form.apply := by
  cases form with
  | written => exact (Option.map_id_apply).symm
  | sorted =>
    have keys : ((Value.sortedValues members).map (·.1)).Nodup := by
      rwa [Value.keys_sortedValues]
    rw [Form.members, lookup_sortMembers keys, Value.lookup_sortedValues]
    rfl

theorem membersDepth_le (form : Form) (members : List (String × Value)) :
    Value.membersDepth (form.members members) ≤ Value.membersDepth members := by
  have whole := form.depth_apply_le (.object members)
  rw [apply_object] at whole
  exact Nat.le_of_succ_le_succ whole

end Form

theorem keys_buffered (members : List (String × Value)) :
    (buffered members).map (·.1) = members.map (·.1) := by
  simp [buffered]

theorem lookup_buffered (members : List (String × Value)) (key : String) :
    (buffered members).lookup key = (members.lookup key).map .ofValue := by
  induction members with
  | nil => rfl
  | cons member members ih =>
    obtain ⟨k, v⟩ := member
    rw [buffered_cons, lookup_member, lookup_member, ih]
    split <;> rfl

/-- What a record is written with. A key without a value is left out. -/
abbrev Sheet := List (String × Option Value)

namespace Sheet

def members (sheet : Sheet) : List (String × Value) :=
  sheet.filterMap fun entry => entry.2.map (entry.1, ·)

def value? (sheet : Sheet) (key : String) : Option Value := (sheet.lookup key).join

theorem nodup_members {sheet : Sheet} (distinct : (sheet.map (·.1)).Nodup) :
    (sheet.members.map (·.1)).Nodup := by
  have keys : (sheet.members.map (·.1)).Sublist (sheet.map (·.1)) := by
    clear distinct
    induction sheet with
    | nil => exact .slnil
    | cons entry sheet ih =>
      obtain ⟨key, written?⟩ := entry
      cases written? with
      | none => exact ih.cons key
      | some value => exact ih.cons_cons key
  exact distinct.sublist keys

theorem lookup_members {sheet : Sheet} (distinct : (sheet.map (·.1)).Nodup) (key : String) :
    sheet.members.lookup key = sheet.value? key := by
  induction sheet with
  | nil => rfl
  | cons entry sheet ih =>
    obtain ⟨k, written?⟩ := entry
    rw [List.map_cons, List.nodup_cons] at distinct
    rw [value?, lookup_member]
    cases written? with
    | none =>
      by_cases same : key = k
      · subst same
        rw [if_pos rfl]
        exact (ih distinct.2).trans (by rw [value?, lookup_of_not_mem distinct.1]; rfl)
      · rw [if_neg same]
        exact ih distinct.2
    | some value =>
      change ((k, value) :: members sheet).lookup key = _
      rw [lookup_member, ih distinct.2]
      split <;> rfl

def full (members : List (String × Value)) : Sheet := members.map fun member => (member.1, some member.2)

theorem members_append (sheet other : Sheet) :
    (sheet ++ other).members = sheet.members ++ other.members := List.filterMap_append

theorem members_full (ms : List (String × Value)) : (full ms).members = ms := by
  induction ms with
  | nil => rfl
  | cons member ms ih => exact congrArg (member :: ·) ih

end Sheet

namespace Fields

variable {α β γ : Type}

theorem fill_make (a : α) (source : Source) (members : List (String × Document)) :
    (make a).fill source () members = .ok () := by
  induction members with
  | nil => rfl
  | cons member members ih => exact ih

section

variable {f : Fields (β → α)} {name : String} {d : Decoder β} {absent : Option β} {source : Source}
  {slots filled : f.Slots} {members : List (String × Document)}

theorem put_field_other {key : String} {document : Document} {result : Option (Except Fault f.Slots)}
    (other : key ≠ name) (put : f.put source slots key document = result) (slot : Option β) :
    (f.field name d absent).put source (slots, slot) key document =
      result.map (·.map fun next => (next, slot)) := (if_neg other).trans (by rw [put])

theorem put_field_same {document : Document} {result : Except Fault β}
    (decoded : d.decode source document = result) :
    (f.field name d absent).put source (slots, none) name document =
      some (result.map fun b => (slots, some b)) := (if_pos rfl).trans (by rw [decoded])

theorem put_field_again (document : Document) (b : β) :
    (f.field name d absent).put source (slots, some b) name document =
      some (.error (.duplicateField name)) := if_pos rfl

theorem fill_field_next {next : f.Slots} {key : String} {document : Document} (other : key ≠ name)
    (put : f.put source slots key document = some (.ok next)) (slot : Option β) :
    (f.field name d absent).fill source (slots, slot) ((key, document) :: members) =
      (f.field name d absent).fill source (next, slot) members := by
  exact fill_next _ (put_field_other other put slot) members

theorem fill_field_skip {key : String} {document : Document} (other : key ≠ name)
    (put : f.put source slots key document = none) (slot : Option β) :
    (f.field name d absent).fill source (slots, slot) ((key, document) :: members) =
      (f.field name d absent).fill source (slots, slot) members := by
  exact fill_skip _ (put_field_other other put slot) members

theorem fill_field_absent [f.Lawful] (missing : members.lookup name = none)
    (fills : f.fill source slots members = .ok filled) (slot : Option β) :
    (f.field name d absent).fill source (slots, slot) members = .ok (filled, slot) := by
  induction members generalizing slots with
  | nil =>
    cases fills
    rfl
  | cons member members ih =>
    obtain ⟨key, document⟩ := member
    rw [lookup_member] at missing
    have other : key ≠ name := fun same => by simp [same] at missing
    rw [if_neg (Ne.symm other)] at missing
    rw [fill] at fills
    cases put : f.put source slots key document with
    | none =>
      rw [put] at fills
      rw [fill_field_skip other put]
      exact ih missing fills
    | some result =>
      rw [put] at fills
      obtain ⟨next, rfl, rest⟩ := bind_ok fills
      rw [fill_field_next other put]
      exact ih missing rest

theorem fill_field_present [f.Lawful] (fresh : name ∉ f.names)
    (nodup : (members.map (·.1)).Nodup) {document : Document} {b : β}
    (found : members.lookup name = some document) (decoded : d.decode source document = .ok b)
    (fills : f.fill source slots members = .ok filled) :
    (f.field name d absent).fill source (slots, none) members = .ok (filled, some b) := by
  induction members generalizing slots with
  | nil => cases found
  | cons member members ih =>
    obtain ⟨key, this⟩ := member
    rw [List.map_cons, List.nodup_cons] at nodup
    rw [lookup_member] at found
    rw [fill] at fills
    by_cases same : key = name
    · subst same
      rw [if_pos rfl] at found
      cases found
      rw [put_of_not_mem f fresh] at fills
      exact (fill_next _ (put_field_same decoded) members).trans
        (fill_field_absent (lookup_of_not_mem nodup.1) fills (some b))
    · rw [if_neg (Ne.symm same)] at found
      cases put : f.put source slots key this with
      | none =>
        rw [put] at fills
        rw [fill_field_skip same put]
        exact ih nodup.2 found fills
      | some result =>
        rw [put] at fills
        obtain ⟨next, rfl, rest⟩ := bind_ok fills
        rw [fill_field_next same put]
        exact ih nodup.2 found rest

end

/-- The fields come to this, whatever the order of the members with the entries of the sheet. -/
def Answers (f : Fields α) (sheet : Sheet) (a : α) : Prop :=
  f.names.Nodup → ∀ (form : Form) (source : Source) (members : List (String × Document)),
    (members.map (·.1)).Nodup →
    (∀ key, members.lookup key = (sheet.value? key).map fun v => .ofValue (form.apply v)) →
    (∀ key v, sheet.value? key = some v → source.Allows v.depth) →
    ∃ filled, f.fill source f.blank members = .ok filled ∧ f.finish filled = .ok a

theorem Answers.make (sheet : Sheet) (a : α) : (make a).Answers sheet a :=
  fun _ _ source members _ _ _ => ⟨(), fill_make a source members, rfl⟩

section

variable {f : Fields (β → α)} [f.Lawful] {sheet : Sheet} {g : β → α} {name : String} {d : Decoder β}
  {b : β}

theorem Answers.present {absent : Option β} (answers : f.Answers sheet g) {v : Value}
    (entry : sheet.value? name = some v) (keeps : d.Keeps v b) :
    (f.field name d absent).Answers sheet (g b) := by
  intro distinct form source members nodup found allows
  have names : (f.names ++ [name]).Nodup := distinct
  have fresh : name ∉ f.names := fun known =>
    (List.nodup_append.mp names).2.2 name known name (List.mem_singleton_self name) rfl
  obtain ⟨filled, fills, finished⟩ :=
    answers (List.nodup_append.mp names).1 form source members nodup found allows
  have there := found name
  rw [entry] at there
  have decoded := keeps form source (allows name v entry)
  refine ⟨(filled, some b), fill_field_present fresh nodup there decoded fills, ?_⟩
  simp only [field, finished]
  rfl

theorem Answers.missing (answers : f.Answers sheet g) (entry : sheet.value? name = none) :
    (f.field name d (some b)).Answers sheet (g b) := by
  intro distinct form source members nodup found allows
  have names : (f.names ++ [name]).Nodup := distinct
  obtain ⟨filled, fills, finished⟩ :=
    answers (List.nodup_append.mp names).1 form source members nodup found allows
  have there := found name
  rw [entry] at there
  refine ⟨(filled, none), fill_field_absent there fills none, ?_⟩
  simp only [field, finished]
  rfl

theorem Answers.required (answers : f.Answers sheet g) {v : Value}
    (entry : sheet.value? name = some v) (keeps : d.Keeps v b) :
    (f.required name d).Answers sheet (g b) := answers.present entry keeps

theorem Answers.orElse {absent : β} (answers : f.Answers sheet g) {v : Value}
    (entry : sheet.value? name = some v) (keeps : d.Keeps v b) :
    (f.orElse name d absent).Answers sheet (g b) := answers.present entry keeps

theorem Answers.orNothing {δ : Type} {f : Fields (List δ → α)} [f.Lawful] {g : List δ → α}
    {d : Decoder (List δ)} {write : List δ → Value} {items : List δ} (answers : f.Answers sheet g)
    (entry : sheet.value? name = if items.isEmpty then none else some (write items))
    (keeps : d.Keeps (write items) items) : (f.orElse name d []).Answers sheet (g items) := by
  cases items with
  | nil => exact answers.missing entry
  | cons item items => exact answers.present entry keeps

end

section

variable {f : Fields (Option β → α)} [f.Lawful] {sheet : Sheet} {g : Option β → α} {name : String}
  {d : Decoder β} {write : β → Value} {b? : Option β}

theorem Answers.orNull (answers : f.Answers sheet g)
    (entry : sheet.value? name = some ((b?.map write).getD .null))
    (keeps : ∀ b, b? = some b → d.Keeps (write b) b ∧ write b ≠ .null) :
    (f.optional name d).Answers sheet (g b?) := by
  cases b? with
  | none => exact answers.present entry (Decoder.keeps_null d)
  | some b => exact answers.present entry ((keeps b rfl).1.some (keeps b rfl).2)

theorem Answers.optional (answers : f.Answers sheet g) (entry : sheet.value? name = b?.map write)
    (keeps : ∀ b, b? = some b → d.Keeps (write b) b ∧ write b ≠ .null) :
    (f.optional name d).Answers sheet (g b?) := by
  cases b? with
  | none => exact answers.missing entry
  | some b => exact answers.present entry ((keeps b rfl).1.some (keeps b rfl).2)

end

/-- The slots that members can fill. -/
inductive Filled (f : Fields α) : f.Slots → Prop where
  | blank : Filled f f.blank
  | put {slots next : f.Slots} {source : Source} {key : String} {document : Document} :
      Filled f slots → f.put source slots key document = some (.ok next) → Filled f next

theorem Filled.putAll {f : Fields α} {source : Source} {slots filled : f.Slots}
    {members : List (Literal × Document)} (start : f.Filled slots)
    (done : f.putAll source slots members = .ok filled) : f.Filled filled := by
  induction members generalizing slots with
  | nil =>
    cases done
    exact start
  | cons member members ih =>
    obtain ⟨literal, document⟩ := member
    obtain ⟨key, _, done⟩ := bind_ok done
    cases put : f.put source slots key document with
    | none =>
      rw [put] at done
      cases source with
      | text room =>
        obtain ⟨_, _, done⟩ := bind_ok done
        exact ih start done
      | value => exact ih start done
      | buffered => exact ih start done
    | some result =>
      rw [put] at done
      obtain ⟨next, rfl, done⟩ := bind_ok done
      exact ih (start.put put) done

theorem Filled.putOwn {f : Fields α} {source : Source} {slots filled : f.Slots}
    {members : List (Literal × Document)} {others : List (String × Document)} (start : f.Filled slots)
    (done : f.putOwn source slots members = .ok (filled, others)) : f.Filled filled := by
  induction members generalizing slots others with
  | nil =>
    cases done
    exact start
  | cons member members ih =>
    obtain ⟨literal, document⟩ := member
    obtain ⟨key, _, done⟩ := bind_ok done
    cases put : f.put source slots key document with
    | none =>
      rw [put] at done
      obtain ⟨_, _, done⟩ := bind_ok done
      obtain ⟨⟨last, left⟩, rest, done⟩ := bind_ok done
      cases done
      exact ih start rest
    | some result =>
      rw [put] at done
      obtain ⟨next, rfl, done⟩ := bind_ok done
      exact ih (start.put put) done

theorem Filled.putBuffered {f : Fields α} {slots filled : f.Slots} {members : List (String × Document)}
    (start : f.Filled slots) (done : f.putBuffered slots members = .ok filled) : f.Filled filled := by
  induction members generalizing slots with
  | nil =>
    cases done
    exact start
  | cons member members ih =>
    obtain ⟨key, document⟩ := member
    rw [Fields.putBuffered] at done
    cases put : f.put .buffered slots key document with
    | none =>
      rw [put] at done
      exact ih start done
    | some result =>
      rw [put] at done
      obtain ⟨next, rfl, done⟩ := bind_ok done
      exact ih (start.put put) done

theorem Filled.field {f : Fields (β → α)} {name : String} {d : Decoder β} {absent : Option β}
    {slots : (f.field name d absent).Slots} (filled : (f.field name d absent).Filled slots) :
    f.Filled slots.1 ∧ ∀ b, slots.2 = some b → d.Reaches b := by
  induction filled with
  | blank => exact ⟨.blank, nofun⟩
  | @put slots next source key document _ put ih =>
    obtain ⟨others, slot⟩ := slots
    by_cases same : key = name
    · subst same
      cases slot with
      | some b => cases (put_field_again document b).symm.trans put
      | none =>
        cases decoded : d.decode source document with
        | error fault => cases (put_field_same decoded).symm.trans put
        | ok b =>
          cases (put_field_same decoded).symm.trans put
          refine ⟨ih.1, fun c found => ?_⟩
          cases found
          exact ⟨source, document, decoded⟩
    · cases result : f.put source others key document with
      | none => cases (put_field_other same result slot).symm.trans put
      | some result' =>
        cases result' with
        | error fault => cases (put_field_other same result slot).symm.trans put
        | ok rest =>
          cases (put_field_other same result slot).symm.trans put
          exact ⟨ih.1.put result, ih.2⟩

/-- Whatever the fields come to is so. -/
structure Holds (f : Fields α) (P : α → Prop) : Prop where
  filled : ∀ slots a, f.Filled slots → f.finish slots = .ok a → P a
  taken : ∀ source short items ending a rest, f.take source short items ending = .ok (a, rest) → P a

theorem Holds.make {a : α} {P : α → Prop} (holds : P a) : (make a).Holds P := by
  refine ⟨fun slots b _ finished => ?_, fun source short items ending b rest taken => ?_⟩
  · cases finished
    exact holds
  · cases taken
    exact holds

theorem Holds.field {f : Fields (β → α)} {name : String} {d : Decoder β} {absent : Option β}
    {P : α → Prop} (holds : f.Holds fun g => ∀ b, d.Reaches b ∨ absent = some b → P (g b)) :
    (f.field name d absent).Holds P := by
  refine ⟨fun slots a filled finished => ?_, fun source short items ending a rest taken => ?_⟩
  · obtain ⟨others, reached⟩ := filled.field
    obtain ⟨slots, slot⟩ := slots
    obtain ⟨g, made, finished⟩ := bind_ok finished
    have all := holds.filled slots g others made
    cases slot with
    | some b =>
      cases finished
      exact all b (.inl (reached b rfl))
    | none =>
      cases absent with
      | none => cases finished
      | some b =>
        cases finished
        exact all b (.inr rfl)
  · obtain ⟨⟨g, left⟩, made, taken⟩ := bind_ok taken
    have all := holds.taken source short items ending g left made
    cases left with
    | nil =>
      obtain ⟨_, _, taken⟩ := bind_ok taken
      cases absent with
      | none => cases taken
      | some b =>
        cases taken
        exact all b (.inr rfl)
    | cons item left =>
      obtain ⟨b, decoded, taken⟩ := bind_ok taken
      cases taken
      exact all b (.inl ⟨source, item, decoded⟩)

theorem Holds.imp {f : Fields α} {P Q : α → Prop} (holds : f.Holds P) (weaker : ∀ a, P a → Q a) :
    f.Holds Q := by
  refine ⟨fun slots a filled finished => ?_, fun source short items ending a rest taken => ?_⟩
  · exact weaker a (holds.filled slots a filled finished)
  · exact weaker a (holds.taken source short items ending a rest taken)

section

variable {name : String} {d : Decoder β} {write : β → Value}

theorem Holds.free {f : Fields (β → α)} {absent : Option β} {P : α → Prop}
    (holds : f.Holds fun g => ∀ b, P (g b)) : (f.field name d absent).Holds P :=
  .field (holds.imp fun _ all b _ => all b)

theorem Holds.required {f : Fields (β → α)} {P : α → Prop} (faithful : d.Faithful write)
    (holds : f.Holds fun g => ∀ b, d.Keeps (write b) b → P (g b)) : (f.required name d).Holds P := by
  refine .field (holds.imp fun g all b reached => all b ?_)
  rcases reached with reached | absent
  · exact faithful b reached
  · cases absent

theorem Holds.orElse {f : Fields (β → α)} {absent : β} {P : α → Prop} (faithful : d.Faithful write)
    (keeps : d.Keeps (write absent) absent)
    (holds : f.Holds fun g => ∀ b, d.Keeps (write b) b → P (g b)) :
    (f.orElse name d absent).Holds P := by
  refine .field (holds.imp fun g all b reached => all b ?_)
  rcases reached with reached | same
  · exact faithful b reached
  · cases same
    exact keeps

theorem Holds.optional {f : Fields (Option β → α)} {P : α → Prop} (faithful : d.Faithful write)
    (present : ∀ b, d.option.Reaches (some b) → write b ≠ .null)
    (holds : f.Holds fun g => ∀ b?, (∀ b, b? = some b → d.Keeps (write b) b ∧ write b ≠ .null) →
      P (g b?)) : (f.optional name d).Holds P := by
  refine .field (holds.imp fun g all b? reached => all b? fun b same => ?_)
  subst same
  rcases reached with reached | absent
  · exact ⟨faithful b reached.some, present b reached⟩
  · cases absent

end

end Fields

namespace Decoder

variable {α γ : Type}

theorem Reaches.record {name : String} {f : Fields α} {P : α → Prop} {a : α}
    (reaches : (record name f).Reaches a) (holds : f.Holds P) : P a := by
  obtain ⟨source, document, decoded⟩ := reaches
  cases document with
  | object members ending =>
    obtain ⟨inner, _, decoded⟩ := bind_ok decoded
    obtain ⟨filled, fills, decoded⟩ := bind_ok decoded
    obtain ⟨_, _, finished⟩ := bind_ok decoded
    exact holds.filled filled a (.putAll .blank fills) finished
  | array items ending =>
    obtain ⟨inner, _, decoded⟩ := bind_ok decoded
    obtain ⟨⟨b, others⟩, taken, decoded⟩ := bind_ok decoded
    have all := holds.taken inner _ items ending b others taken
    cases others with
    | nil =>
      obtain ⟨_, _, decoded⟩ := bind_ok decoded
      cases decoded
      exact all
    | cons other others => cases decoded
  | _ => cases decoded

theorem Reaches.flattened {name : String} {own : Fields (γ → α)} {part : Fields γ} {P : α → Prop}
    {a : α} (reaches : (flattened name own (.fields part)).Reaches a)
    (holds : own.Holds fun make => part.Holds fun c => P (make c)) : P a := by
  obtain ⟨source, document, decoded⟩ := reaches
  cases document with
  | object members ending =>
    obtain ⟨inner, _, decoded⟩ := bind_ok decoded
    obtain ⟨⟨filled, others⟩, fills, decoded⟩ := bind_ok decoded
    obtain ⟨_, _, decoded⟩ := bind_ok decoded
    obtain ⟨make, made, decoded⟩ := bind_ok decoded
    obtain ⟨c, shared, decoded⟩ := bind_ok decoded
    cases decoded
    obtain ⟨shares, fills', finished⟩ := bind_ok shared
    have all := holds.filled filled make (.putOwn .blank fills) made
    exact all.filled shares c (.putBuffered .blank fills') finished
  | _ => cases decoded

theorem faithful_record {name : String} {f : Fields α} {write : α → Value}
    (holds : f.Holds fun a => (record name f).Keeps (write a) a) : (record name f).Faithful write :=
  fun _ reaches => reaches.record (P := fun a => (record name f).Keeps (write a) a) holds

theorem faithful_flattened {name : String} {own : Fields (γ → α)} {part : Fields γ} {write : α → Value}
    (holds : own.Holds fun make => part.Holds fun c =>
      (flattened name own (.fields part)).Keeps (write (make c)) (make c)) :
    (flattened name own (.fields part)).Faithful write :=
  fun _ reaches =>
    reaches.flattened (P := fun a => (flattened name own (.fields part)).Keeps (write a) a) holds

variable {sheet : Sheet}

theorem fill_of_answers {f : Fields α} {a : α} (distinct : (sheet.map (·.1)).Nodup)
    (names : f.names.Nodup) (answers : f.Answers sheet a) (form : Form) {source : Source}
    (allows : source.Allows (Value.membersDepth sheet.members)) :
    ∃ filled, f.fill source f.blank (buffered (form.members sheet.members)) = .ok filled ∧
      f.finish filled = .ok a := by
  have nodup := Sheet.nodup_members distinct
  refine answers names form source _ ?_ (fun key => ?_) fun key v entry => ?_
  · rw [keys_buffered]
    exact form.nodup_members nodup
  · rw [lookup_buffered, form.lookup_members nodup, Sheet.lookup_members distinct, Option.map_map]
    rfl
  · rw [← Sheet.lookup_members distinct] at entry
    exact allows.less (Value.depth_le_membersDepth (mem_of_lookup entry))

theorem keeps_record {f : Fields α} {v : Value} {a : α} (name : String)
    (written : v = .object sheet.members) (keys : sheet.map (·.1) = f.names)
    (distinct : f.names.Nodup) (answers : f.Answers sheet a) : (record name f).Keeps v a := by
  subst written
  intro form source allows
  have deep : source.Allows (Value.membersDepth (form.members sheet.members) + 1) :=
    allows.less (Nat.succ_le_succ (form.membersDepth_le _))
  obtain ⟨inner, entered, _, whole⟩ := record_object name f _ deep
  obtain ⟨inner', entered', room⟩ := allows.enter
  cases entered.symm.trans entered'
  obtain ⟨filled, fills, finished⟩ := fill_of_answers (keys ▸ distinct) distinct answers form room
  rw [form.apply_object, whole, fills]
  exact finished

theorem keeps_full {f : Fields α} {members : List (String × Value)} {a : α} (name : String)
    (keys : members.map (·.1) = f.names) (distinct : f.names.Nodup)
    (answers : f.Answers (Sheet.full members) a) : (record name f).Keeps (.object members) a := by
  have written := congrArg Value.object (Sheet.members_full members).symm
  exact keeps_record name written (by rwa [Sheet.full, List.map_map]) distinct answers

theorem keeps_flattened {own : Fields (γ → α)} [own.Lawful] {part : Fields γ} [part.Lawful]
    {make : γ → α} {c : γ} {v : Value} (name : String) (written : v = .object sheet.members)
    (keys : sheet.map (·.1) = part.names ++ own.names) (distinct : (part.names ++ own.names).Nodup)
    (answers : own.Answers sheet make) (shared : part.Answers sheet c) :
    (flattened name own (.fields part)).Keeps v (make c) := by
  subst written
  intro form source allows
  obtain ⟨partNames, ownNames, apart⟩ := List.nodup_append.mp distinct
  have deep : source.Allows (Value.membersDepth (form.members sheet.members) + 1) :=
    allows.less (Nat.succ_le_succ (form.membersDepth_le _))
  obtain ⟨inner, entered, _, whole⟩ :=
    flattened_object name own part (fun key there here => apart key there key here rfl) _ deep
  obtain ⟨inner', entered', room⟩ := allows.enter
  cases entered.symm.trans entered'
  obtain ⟨filled, fills, finished⟩ := fill_of_answers (keys ▸ distinct) ownNames answers form room
  have opened : Source.buffered.Allows (Value.membersDepth sheet.members) := trivial
  obtain ⟨shares, fills', finished'⟩ := fill_of_answers (keys ▸ distinct) partNames shared form opened
  rw [form.apply_object, whole, fills]
  change (do let make ← own.finish filled; _) = _
  rw [finished]
  change (do let slots ← part.fill .buffered part.blank _; _) = _
  rw [fills']
  change (do let shared ← part.finish shares; _) = _
  rw [finished']
  rfl

theorem keeps_flattened_full {own : Fields (γ → α)} [own.Lawful] {part : Fields γ} [part.Lawful]
    {make : γ → α} {c : γ} {members : List (String × Value)} (name : String)
    (keys : members.map (·.1) = part.names ++ own.names) (distinct : (part.names ++ own.names).Nodup)
    (answers : own.Answers (Sheet.full members) make) (shared : part.Answers (Sheet.full members) c) :
    (flattened name own (.fields part)).Keeps (.object members) (make c) := by
  have written := congrArg Value.object (Sheet.members_full members).symm
  exact keeps_flattened name written (by rwa [Sheet.full, List.map_map]) distinct answers shared

end Decoder

end TezosNode.Decode
