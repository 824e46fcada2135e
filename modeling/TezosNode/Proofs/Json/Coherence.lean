import TezosNode.Json.Reader

/-!
Strings as the reader finds them. One whose text is known can also be skipped, so that a document in
which nothing is broken can be passed over. The invariant of the reader: every string it holds is such
a one.
-/

namespace TezosNode.Json

/-- Where the text is known, the string can be skipped. -/
def Literal.Coherent (literal : Literal) : Prop :=
  ∀ s, literal.text = .ok s → literal.skipped = .ok ()

namespace Document

mutual

def Coherent : Document → Prop
  | .string literal => literal.Coherent
  | .array items _ => ItemsCoherent items
  | .object members _ => MembersCoherent members
  | _ => True

def ItemsCoherent : List Document → Prop
  | [] => True
  | item :: items => item.Coherent ∧ ItemsCoherent items

def MembersCoherent : List (Literal × Document) → Prop
  | [] => True
  | (key, value) :: members => key.Coherent ∧ value.Coherent ∧ MembersCoherent members

end

theorem itemsCoherent_append (items others : List Document) :
    ItemsCoherent (items ++ others) ↔ ItemsCoherent items ∧ ItemsCoherent others := by
  induction items with
  | nil => simp [ItemsCoherent]
  | cons item items ih => simp [ItemsCoherent, ih, and_assoc]

theorem itemsCoherent_reverse (items : List Document) :
    ItemsCoherent items.reverse ↔ ItemsCoherent items := by
  induction items with
  | nil => rfl
  | cons item items ih =>
    rw [List.reverse_cons, itemsCoherent_append, ih]
    simp [ItemsCoherent, and_comm]

theorem membersCoherent_append (members others : List (Literal × Document)) :
    MembersCoherent (members ++ others) ↔ MembersCoherent members ∧ MembersCoherent others := by
  induction members with
  | nil => simp [MembersCoherent]
  | cons member members ih => simp [MembersCoherent, ih, and_assoc]

theorem membersCoherent_reverse (members : List (Literal × Document)) :
    MembersCoherent members.reverse ↔ MembersCoherent members := by
  induction members with
  | nil => rfl
  | cons member members ih =>
    rw [List.reverse_cons, membersCoherent_append, ih]
    simp only [MembersCoherent, and_true]
    rw [and_comm, and_assoc]

end Document

namespace Quote

theorem fail_coherent (q : Quote) (fault : Malformed) : (q.fail fault).Coherent := by
  intro s known
  cases bytes : q.bytes <;> simp [fail, bytes, Except.bind] at known

theorem close_coherent (q : Quote) : q.close.Coherent := fun _ _ => rfl

def Step.Coherent : Step → Prop
  | .more _ => True
  | .closed literal | .failed literal => literal.Coherent

theorem step_coherent (q : Quote) (b : UInt8) : (q.step b).Coherent := by
  unfold step
  split
  · dsimp only
    split
    · exact close_coherent _
    · split
      · trivial
      · split
        · exact fail_coherent _ _
        · trivial
  · dsimp only
    split
    · trivial
    · split
      · trivial
      · exact fail_coherent _ _
  · dsimp only
    split
    · trivial
    · split
      · trivial
      · exact fail_coherent _ _

end Quote

def Frame.Coherent : Frame → Prop
  | .list items => Document.ItemsCoherent items
  | .object members => Document.MembersCoherent members
  | .member members key => Document.MembersCoherent members ∧ key.Coherent

def Mode.Coherent : Mode → Prop
  | .word _ document => document.Coherent
  | _ => True

namespace Reader

def StackCoherent (stack : List Frame) : Prop := ∀ frame ∈ stack, frame.Coherent

structure Coherent (reader : Reader) : Prop where
  stack : StackCoherent reader.stack
  mode : reader.mode.Coherent

def Step.Coherent : Step → Prop
  | .more reader => reader.Coherent
  | .value document _ => document.Coherent
  | .broken document => document.Coherent

theorem StackCoherent.head {frame : Frame} {stack : List Frame}
    (coherent : StackCoherent (frame :: stack)) : frame.Coherent := coherent frame (by simp)

theorem StackCoherent.tail {frame : Frame} {stack : List Frame}
    (coherent : StackCoherent (frame :: stack)) : StackCoherent stack :=
  fun other member => coherent other (List.mem_cons_of_mem _ member)

theorem StackCoherent.cons {frame : Frame} {stack : List Frame} (top : frame.Coherent)
    (coherent : StackCoherent stack) : StackCoherent (frame :: stack) := by
  intro other member
  rcases List.mem_cons.mp member with rfl | later
  · exact top
  · exact coherent other later

theorem enclose_coherent {document : Document} {stack : List Frame} (known : document.Coherent)
    (coherent : StackCoherent stack) : (enclose document stack).Coherent := by
  induction stack generalizing document with
  | nil => exact known
  | cons frame stack ih =>
    have top := coherent.head
    cases frame with
    | list items =>
      refine ih ?_ coherent.tail
      exact (Document.itemsCoherent_reverse _).mpr ⟨known, top⟩
    | member members key =>
      refine ih ?_ coherent.tail
      exact (Document.membersCoherent_reverse _).mpr ⟨top.2, known, top.1⟩
    | object members => exact ih known coherent.tail

theorem breakOff_coherent {stack : List Frame} (flaw : Flaw) (coherent : StackCoherent stack) :
    (breakOff stack flaw).Coherent := enclose_coherent trivial coherent

theorem endList_coherent {stack : List Frame} (ending : ListEnd) (coherent : StackCoherent stack) :
    (endList ending stack).Coherent := by
  unfold endList
  split
  · refine enclose_coherent ?_ coherent.tail
    exact (Document.itemsCoherent_reverse _).mpr coherent.head
  · exact breakOff_coherent _ coherent

theorem endObject_coherent {stack : List Frame} (ending : ObjectEnd)
    (coherent : StackCoherent stack) : (endObject ending stack).Coherent := by
  unfold endObject
  split
  · refine enclose_coherent ?_ coherent.tail
    exact (Document.membersCoherent_reverse _).mpr coherent.head
  · exact breakOff_coherent _ coherent

theorem give_coherent {document : Document} {stack : List Frame} (within : Bool)
    (known : document.Coherent) (coherent : StackCoherent stack) :
    (give document within stack).Coherent := by
  unfold give
  split
  · exact known
  · exact ⟨.cons ⟨known, coherent.head⟩ coherent.tail, trivial⟩
  · exact ⟨.cons ⟨coherent.head.2, known, coherent.head.1⟩ coherent.tail, trivial⟩
  · exact ⟨coherent, trivial⟩

theorem stepAfter_coherent {stack : List Frame} (b : UInt8) (coherent : StackCoherent stack) :
    (stepAfter stack b).Coherent := by
  unfold stepAfter
  split
  · exact ⟨coherent, trivial⟩
  · split
    · split
      · exact ⟨coherent, trivial⟩
      · split
        · exact give_coherent _ ((Document.itemsCoherent_reverse _).mpr coherent.head) coherent.tail
        · exact endList_coherent _ coherent
    · split
      · exact ⟨coherent, trivial⟩
      · split
        · exact give_coherent _ ((Document.membersCoherent_reverse _).mpr coherent.head) coherent.tail
        · exact endObject_coherent _ coherent
    · exact breakOff_coherent _ coherent

theorem stepValue_coherent {stack : List Frame} (b : UInt8) (coherent : StackCoherent stack) :
    (stepValue stack b).Coherent := by
  have stays (mode : Mode) (known : mode.Coherent) : (Step.more ⟨stack, mode⟩).Coherent :=
    ⟨coherent, known⟩
  have opens (frame : Frame) (mode : Mode) (empty : frame.Coherent) (known : mode.Coherent) :
      (Step.more ⟨frame :: stack, mode⟩).Coherent := ⟨.cons empty coherent, known⟩
  unfold stepValue
  refine iteInduction (motive := Step.Coherent) (fun _ => stays _ trivial) fun _ => ?_
  refine iteInduction (motive := Step.Coherent) (fun _ => opens _ _ trivial trivial) fun _ => ?_
  refine iteInduction (motive := Step.Coherent) (fun _ => opens _ _ trivial trivial) fun _ => ?_
  iterate 7 refine iteInduction (motive := Step.Coherent) (fun _ => stays _ trivial) fun _ => ?_
  exact breakOff_coherent _ coherent

theorem number_coherent (numeral : Numeral) : (number numeral).Coherent := trivial

theorem stepNumeral_coherent {stack : List Frame} (phase : NumeralPhase) (n : Numeral) (b : UInt8)
    (coherent : StackCoherent stack) : (stepNumeral stack phase n b).Coherent := by
  unfold stepNumeral
  split
  · exact ⟨coherent, trivial⟩
  · split
    · have given := give_coherent false (number_coherent n) coherent
      split
      · next reader more =>
        rw [more] at given
        exact stepAfter_coherent b given.stack
      · exact given
    · exact breakOff_coherent _ coherent

theorem step_coherent {reader : Reader} (coherent : reader.Coherent) (b : UInt8) :
    (reader.step b).Coherent := by
  obtain ⟨stack, mode⟩ := reader
  obtain ⟨frames, known⟩ := coherent
  have tail : StackCoherent stack.tail := fun frame member => frames frame (List.mem_of_mem_tail member)
  cases mode with
  | value => exact stepValue_coherent b frames
  | listStart =>
    simp only [step]
    split
    · exact ⟨frames, trivial⟩
    · split
      · exact give_coherent _ trivial tail
      · exact stepValue_coherent b frames
  | listNext =>
    simp only [step]
    split
    · exact ⟨frames, trivial⟩
    · split
      · exact endList_coherent _ frames
      · exact stepValue_coherent b frames
  | objectStart =>
    simp only [step]
    split
    · exact ⟨frames, trivial⟩
    · split
      · exact give_coherent _ trivial tail
      · split
        · exact ⟨frames, trivial⟩
        · exact endObject_coherent _ frames
  | objectNext =>
    simp only [step]
    split
    · exact ⟨frames, trivial⟩
    · split
      · exact endObject_coherent _ frames
      · split
        · exact ⟨frames, trivial⟩
        · exact endObject_coherent _ frames
  | colon =>
    simp only [step]
    split
    · exact ⟨frames, trivial⟩
    · split
      · exact ⟨frames, trivial⟩
      · exact breakOff_coherent _ frames
  | after => exact stepAfter_coherent b frames
  | word letters value =>
    match letters with
    | [] => exact give_coherent _ known frames
    | [letter] =>
      simp only [step]
      split
      · exact give_coherent _ known frames
      · exact breakOff_coherent _ frames
    | letter :: next :: letters =>
      simp only [step]
      split
      · exact ⟨frames, known⟩
      · exact breakOff_coherent _ frames
  | numeral phase n => exact stepNumeral_coherent phase n b frames
  | string quote =>
    have quoted := quote.step_coherent b
    simp only [step]
    split
    · exact ⟨frames, trivial⟩
    · next literal closed =>
      rw [closed] at quoted
      exact give_coherent _ quoted frames
    · next literal failed =>
      rw [failed] at quoted
      exact enclose_coherent quoted frames
  | key quote =>
    have quoted := quote.step_coherent b
    simp only [step]
    split
    · exact ⟨frames, trivial⟩
    · next literal closed =>
      rw [closed] at quoted
      exact ⟨.cons ⟨frames.head, quoted⟩ frames.tail, trivial⟩
    · next literal failed =>
      rw [failed] at quoted
      exact breakOff_coherent _ (.cons ⟨frames.head, quoted⟩ frames.tail)
    · exact breakOff_coherent _ frames

theorem finishAfter_coherent {stack : List Frame} (coherent : StackCoherent stack) :
    (finish.finishAfter stack).Coherent := by
  unfold finish.finishAfter
  split
  · exact endList_coherent _ coherent
  · exact endObject_coherent _ coherent

theorem finish_coherent {reader : Reader} (coherent : reader.Coherent) : reader.finish.Coherent := by
  obtain ⟨stack, mode⟩ := reader
  obtain ⟨frames, known⟩ := coherent
  cases mode with
  | value | colon | word => exact breakOff_coherent _ frames
  | listStart | listNext => exact endList_coherent _ frames
  | objectStart | objectNext => exact endObject_coherent _ frames
  | after => exact finishAfter_coherent frames
  | numeral phase n =>
    have given := give_coherent false (number_coherent n) frames
    simp only [finish]
    split
    · split
      · next reader more =>
        rw [more] at given
        exact finishAfter_coherent given.stack
      · next document ended =>
        rw [ended] at given
        exact given
      · next document ended =>
        rw [ended] at given
        exact given
    · exact breakOff_coherent _ frames
  | string quote => exact enclose_coherent (quote.fail_coherent _) frames
  | key quote =>
    simp only [finish]
    split
    · exact breakOff_coherent _ (.cons ⟨frames.head, quote.fail_coherent _⟩ frames.tail)
    · exact breakOff_coherent _ frames

theorem run_coherent {reader : Reader} (coherent : reader.Coherent) (bs : Bytes) :
    (reader.run bs).1.Coherent := by
  induction bs generalizing reader with
  | nil => exact finish_coherent coherent
  | cons b bs ih =>
    have stepped := step_coherent coherent b
    rw [run]
    cases step : reader.step b with
    | more next =>
      rw [step] at stepped
      exact ih stepped
    | value document within =>
      rw [step] at stepped
      cases within <;> exact stepped
    | broken document =>
      rw [step] at stepped
      exact stepped

end Reader

theorem Document.read_coherent (text : Bytes) : (Document.read text).1.Coherent := by
  have start : Reader.Coherent {} := ⟨nofun, trivial⟩
  exact Reader.run_coherent start text

end TezosNode.Json
