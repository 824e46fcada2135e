import Mathlib.Data.List.Infix
import TezosNode.Proofs.Body.Truncation
import TezosNode.Proofs.Json.Numerals

/-!
Bodies of values of all kinds. A number or a literal shows no end of its own: it is read as soon as it is
there, and it is over where the chunk is, or before a blank or a value that shows where it begins. So
numbers must not be cut, and everything else may be.
-/

namespace TezosNode.Body

open Decode Json

variable {α : Type}

def Scalar (text : Bytes) : Prop := NumeralText text ∨ Word text

theorem enclosed_or_scalar {text : Bytes} (spells : Spells .value text) :
    Enclosed text ∨ Scalar text := by
  cases spells with
  | nullWord => exact .inr (.inr (.inl rfl))
  | trueWord => exact .inr (.inr (.inr (.inl rfl)))
  | falseWord => exact .inr (.inr (.inr (.inr rfl)))
  | numeral number => exact .inr (.inl number)
  | string quoted => exact .inl ⟨.string quoted, rfl⟩
  | noItems blank => exact .inl ⟨.noItems blank, rfl⟩
  | list items => exact .inl ⟨.list items, rfl⟩
  | noMembers blank => exact .inl ⟨.noMembers blank, rfl⟩
  | object members => exact .inl ⟨.object members, rfl⟩

/-- What may follow a scalar: nothing, a blank, or a value in brackets or quotes. -/
def Parted (rest : Bytes) : Prop :=
  rest.head?.all (fun b => Ascii.isJsonBlank b || isOpening b) = true

instance (rest : Bytes) : Decidable (Parted rest) := inferInstanceAs (Decidable (_ = true))

theorem Parted.front {there later : Bytes} (parted : Parted (there ++ later)) : Parted there := by
  cases there with
  | nil => rfl
  | cons b there => exact parted

theorem Parted.ends {rest : Bytes} (parted : Parted rest) :
    Feed.endsBare rest = true ∧ rest.head?.all (fun b => !isNumeralByte b) = true := by
  cases rest with
  | nil => exact ⟨rfl, rfl⟩
  | cons b rest =>
    have kinds : b = 0x20 ∨ b = 0x09 ∨ b = 0x0A ∨ b = 0x0D ∨ b = Ascii.quote ∨
        b = Ascii.openBracket ∨ b = Ascii.openBrace := by
      simpa [Parted, Ascii.isJsonBlank, isOpening, or_assoc] using parted
    rcases kinds with rfl | rfl | rfl | rfl | rfl | rfl | rfl <;> exact ⟨rfl, rfl⟩

inductive IsWord : Document → Prop where
  | null : IsWord .null
  | bool (value : Bool) : IsWord (.bool value)

/-- The decoder asks for the rest of a literal that breaks off, or refuses it as it refuses every literal. -/
def Patient (d : Decoder α) : Prop :=
  Awaits d ∨ ∃ fault, d.decode (.text Decoder.textRoom) (.broken .wordCutOff) = .error fault ∧
    ∀ document, IsWord document → d.decode (.text Decoder.textRoom) document = .error fault

theorem read_word {text : Bytes} (word : Word text) :
    ∃ document, IsWord document ∧ Document.read text = (document, []) := by
  rcases word with rfl | rfl | rfl
  · exact ⟨.null, .null, rfl⟩
  · exact ⟨.bool true, .bool true, rfl⟩
  · exact ⟨.bool false, .bool false, rfl⟩

theorem read_scalar {text : Bytes} (scalar : Scalar text) :
    ∃ document : Document, ∀ rest, Parted rest → Document.read (text ++ rest) = (document, rest) := by
  rcases scalar with number | rfl | rfl | rfl
  · obtain ⟨value, _, reads⟩ := Document.read_numeral number
    exact ⟨.number value, fun rest parted => reads rest parted.ends.2⟩
  · exact ⟨.null, fun rest _ => rfl⟩
  · exact ⟨.bool true, fun rest _ => rfl⟩
  · exact ⟨.bool false, fun rest _ => rfl⟩

theorem ofText_of_read (d : Decoder α) {text : Bytes} {document : Document}
    (read : Document.read text = (document, [])) :
    d.ofText text = d.decode (.text Decoder.textRoom) document := by
  rw [d.ofText_eq, read]
  cases d.decode (.text Decoder.textRoom) document <;> rfl

theorem Scalar.head {text : Bytes} (scalar : Scalar text) :
    ∃ b bs, text = b :: bs ∧ Ascii.isBlank b = false ∧ b ≠ Ascii.quote ∧
      Extent.isOpener b = false ∧ Extent.isCloser b = false := by
  rcases scalar with number | rfl | rfl | rfl
  · obtain ⟨b, bs, rfl, numeral⟩ := number.head
    exact ⟨b, bs, rfl, solid_of_isNumeralByte numeral, Extent.ordinary_of_isNumeralByte numeral⟩
  · exact ⟨_, _, rfl, rfl, by decide, rfl, rfl⟩
  · exact ⟨_, _, rfl, rfl, by decide, rfl, rfl⟩
  · exact ⟨_, _, rfl, rfl, by decide, rfl, rfl⟩

theorem scan_scalar {blank text : Bytes} (blanks : Blank blank) (scalar : Scalar text) (rest : Bytes) :
    Extent.start.scan (blank ++ text ++ rest) = (.plain blank.length 0, .bare) := by
  obtain ⟨b, bs, rfl, solid, quote, opener, closer⟩ := scalar.head
  have stop : (Extent.plain blank.length 0).step b = .stop (.plain blank.length 0) .bare := by
    simp [Extent.step, Extent.stepPlain, Extent.plain, solid, quote, opener, closer]
  rw [List.append_assoc, Extent.scan_blank blanks, List.cons_append, Extent.scan_cons, stop]

namespace Feed

theorem ofFront_scalar (d : Decoder α) {blank text rest : Bytes} (blanks : Blank blank)
    (scalar : Scalar text) (parted : Parted rest) :
    d.ofFront (blank ++ text ++ rest) = (d.ofText text).map (·, rest) := by
  obtain ⟨document, reads⟩ := read_scalar scalar
  have known := ofText_of_read d (List.append_nil text ▸ reads [] rfl)
  rw [Decoder.ofFront, List.append_assoc, Document.read_blank blanks, reads rest parted, known]
  simp only
  cases d.decode (.text Decoder.textRoom) document <;> rfl

/-- A scalar that is there is answered, and what follows it is kept. Or it is refused, or waited for if the
decoder finds that bytes of it are missing. -/
theorem take_of_scalar (d : Decoder α) {feed : Feed} {blank text there : Bytes}
    (tracks : feed.Tracks) (blanks : Blank blank) (scalar : Scalar text) (parted : Parted there)
    (whole : feed.pending = blank ++ text ++ there) :
    feed.take d =
      match d.ofText text with
      | .ok a => (.value a, keep there)
      | .error fault =>
        if fault.category = .cutOff then (.waiting, { feed with extent := .plain blank.length 0 })
        else (.refused fault, { feed with extent := .plain blank.length 0, closed := true }) := by
  have bare := scan_scalar blanks scalar there
  rw [← whole] at bare
  have solid : ¬feed.pending.all Ascii.isJsonBlank = true := by
    simp [solid_of_bare (tracks.resume.trans bare)]
  have front := ofFront_scalar d blanks scalar parted
  rw [← whole] at front
  rw [Feed.take, tracks.resume, bare]
  simp only [takeBare, if_neg solid, front]
  cases d.ofText text with
  | ok a => exact if_pos parted.ends.1
  | error fault => rfl

theorem take_of_refused_scalar (d : Decoder α) {feed : Feed} {blank text there : Bytes} {fault : Fault}
    (tracks : feed.Tracks) (blanks : Blank blank) (scalar : Scalar text) (parted : Parted there)
    (whole : feed.pending = blank ++ text ++ there) (refused : d.ofText text = .error fault) :
    ∃ after, (feed.take d = (.refused fault, after) ∧ after.closed = true) ∨
      (feed.take d = (.waiting, after) ∧ after.Tracks ∧ after.pending = feed.pending) := by
  have taken := take_of_scalar d tracks blanks scalar parted whole
  simp only [refused] at taken
  by_cases cutOff : fault.category = .cutOff
  · rw [if_pos cutOff] at taken
    -- the extent stays at the scalar, so the blanks are all that was looked at
    have scanned := Extent.scan_blank blanks []
    rw [List.append_nil] at scanned
    exact ⟨_, .inr ⟨taken, ⟨blank, text ++ there, by rw [whole, List.append_assoc], scanned⟩, rfl⟩⟩
  · rw [if_neg cutOff] at taken
    exact ⟨_, .inl ⟨taken, rfl⟩⟩

theorem finish_of_refused_scalar (d : Decoder α) {feed : Feed} {blank text there : Bytes} {fault : Fault}
    (blanks : Blank blank) (scalar : Scalar text) (parted : Parted there)
    (whole : feed.pending = blank ++ text ++ there) (refused : d.ofText text = .error fault) :
    feed.finish d = (.refused fault, start.close) := by
  have solid : ¬feed.pending.all Ascii.isBlank = true := by
    obtain ⟨b, bs, rfl, solid, _⟩ := scalar.head
    simp [whole, solid]
  have all : d.ofText feed.pending = .error fault := by
    rw [Decoder.ofText, whole, ofFront_scalar d blanks scalar parted, refused]
    rfl
  rw [finish, if_neg solid, all]

/-- A scalar that is refused is refused before the body is over, or there. -/
theorem pull_of_refused_scalar (d : Decoder α) {ending : Event}
    (proper : ending = .finished ∨ ending = .cutOff) (later : List Event) {text : Bytes} {fault : Fault}
    (scalar : Scalar text) (refused : d.ofText text = .error fault) {feed : Feed} {blank there : Bytes}
    {chunks : List Bytes} (tracks : feed.Tracks) (blanks : Blank blank)
    (parted : Parted (there ++ chunks.flatten)) (whole : feed.pending = blank ++ text ++ there) :
    ∃ after left, after.closed = true ∧
      feed.pull d (chunks.map .chunk ++ ending :: later) = (.refused fault, after, left) := by
  induction chunks generalizing feed there with
  | nil =>
    obtain ⟨after, ⟨taken, closed⟩ | ⟨taken, _, same⟩⟩ :=
      take_of_refused_scalar d tracks blanks scalar parted.front whole refused
    · exact ⟨after, _, closed, pull_of_settled d taken nofun _⟩
    · have finished :=
        finish_of_refused_scalar d blanks scalar parted.front (same.trans whole) refused
      refine ⟨start.close, later, rfl, ?_⟩
      rw [List.map_nil, List.nil_append, pull_of_waiting d taken]
      rcases proper with rfl | rfl <;> rw [onEvent, finished]
  | cons chunk chunks ih =>
    obtain ⟨after, ⟨taken, closed⟩ | ⟨taken, stays, same⟩⟩ :=
      take_of_refused_scalar d tracks blanks scalar parted.front whole refused
    · exact ⟨after, _, closed, pull_of_settled d taken nofun _⟩
    · have more : (after.push chunk).pending = blank ++ text ++ (there ++ chunk) := by
        simp only [push, same, whole, List.append_assoc]
      rw [List.flatten_cons, ← List.append_assoc] at parted
      obtain ⟨last, left, closed, pulled⟩ := ih (stays.push chunk) parted more
      refine ⟨last, left, closed, ?_⟩
      rw [List.map_cons, List.cons_append, pull_of_waiting d taken]
      exact pulled

/-- A part of a literal is waited for, or it is refused as all of it would be. -/
theorem take_of_word_part {d : Decoder α} (patient : Patient d) {feed : Feed} {blank text back : Bytes}
    (tracks : feed.Tracks) (blanks : Blank blank) (word : Word text) (missing : back ≠ [])
    (whole : blank ++ text = feed.pending ++ back) :
    (∃ after others, feed.take d = (.waiting, after) ∧ after.Tracks ∧ Blank others ∧
      others ++ text = after.pending ++ back) ∨
      ∃ fault after, d.ofText text = .error fault ∧ feed.take d = (.refused fault, after) ∧
        after.closed = true := by
  rcases patient with awaits | ⟨fault, refused, all⟩
  · exact .inl (waits_of_word awaits word tracks blanks missing whole)
  · rcases front_cases blanks whole with ⟨others, empty, left, rfl⟩ | ⟨front, some, there, same⟩
    · exact .inl ⟨start, others, take_of_blank d tracks empty, tracks_keep [], left, rfl⟩
    · have taken := take_of_word d tracks blanks some missing (same ▸ word) there refused
      by_cases cutOff : fault.category = .cutOff
      · exact .inl (waits_of_word ⟨fault, refused, cutOff⟩ word tracks blanks missing whole)
      · obtain ⟨document, known, read⟩ := read_word word
        rw [if_neg cutOff] at taken
        exact .inr ⟨fault, _, (ofText_of_read d read).trans (all document known), taken, rfl⟩

/-- What has to be there as a whole: a number, and a literal if the decoder is not patient. -/
def Brittle (d : Decoder α) (text : Bytes) : Prop := NumeralText text ∨ Word text ∧ ¬Patient d

theorem serves_of_scalar (d : Decoder α) {ending : Event} (proper : ending = .finished ∨ ending = .cutOff)
    (later : List Event) {text rest : Bytes} (scalar : Scalar text) (parted : Parted rest) :
    Serves (Brittle d) d (ending :: later) text rest where
  whole := by
    intro feed blank there chunks tracks blanks split whole
    rw [← split] at parted
    cases decoded : d.ofText text with
    | ok a =>
      have taken := take_of_scalar d tracks blanks scalar parted.front whole
      rw [decoded] at taken
      exact .inl ⟨a, rfl, taken⟩
    | error fault =>
      obtain ⟨after, left, closed, pulled⟩ :=
        pull_of_refused_scalar d proper later scalar decoded tracks blanks parted whole
      exact .inr ⟨fault, after, left, rfl, closed, pulled⟩
  part := by
    intro feed blank back tracks blanks missing whole uncut
    by_cases brittle : Brittle d text
    · -- all of it is missing, so what is there is blank
      have bound := uncut brittle
      have total := congrArg List.length whole
      rcases front_cases blanks whole with ⟨others, empty, left, rfl⟩ | ⟨front, some, there, rfl⟩
      · exact .inl ⟨start, others, take_of_blank d tracks empty, tracks_keep [], left, rfl⟩
      · have positive := List.length_pos_iff.mpr some
        rw [List.length_append] at bound
        omega
    · have word : Word text := scalar.resolve_left fun number => brittle (.inl number)
      have patient : Patient d := not_not.mp fun hasty => brittle (.inr ⟨word, hasty⟩)
      exact take_of_word_part patient tracks blanks word missing whole

theorem answers_of_blank (d : Decoder α) {feed : Feed} {chunks : List Bytes} (tracks : feed.Tracks)
    (opened : feed.closed = false) (blanks : Blank (feed.pending ++ chunks.flatten)) {ending : Event}
    (proper : ending = .finished ∨ ending = .cutOff) (later : List Event) (calls : Nat) :
    feed.answers d (chunks.map .chunk ++ ending :: later) calls = List.replicate calls .ended := by
  cases calls with
  | zero => rfl
  | succ calls =>
    obtain ⟨last, pulled, none⟩ := pull_of_blank (d := d) blanks ending later tracks rfl
    have ended := finish_of_blank d none
    have told : (feed.next d (chunks.map .chunk ++ ending :: later)).1 = .ended := by
      rw [next_of_open d opened, pulled]
      rcases proper with rfl | rfl <;> exact ended
    rcases called : feed.next d (chunks.map .chunk ++ ending :: later) with ⟨answer, after, left⟩
    rw [called] at told
    subst told
    have closed := next_closes d called nofun nofun
    rw [answers_succ d called, answers_of_closed d closed, List.replicate_succ]

/-- Values of all kinds: every value of a body gets its verdict, up to the first one refused, and then the
end is told. Chunks may end anywhere but in a number, and in a literal too if the decoder is patient. A
scalar must be parted from what follows it. -/
theorem scalars_in_order (d : Decoder α) (parts : List (Bytes × Bytes))
    (tail : Bytes) (chunks : List Bytes) (ending : Event) (later : List Event)
    (blanks : ∀ part ∈ parts, Blank part.1) (values : ∀ part ∈ parts, Spells .value part.2)
    (parted : ∀ before part after, parts = before ++ part :: after → Scalar part.2 →
      Parted (joined after tail))
    (rest : Blank tail) (cut : chunks.flatten = joined parts tail)
    (numbers : Uncut NumeralText parts [] chunks) (literals : Patient d ∨ Uncut Word parts [] chunks)
    (proper : ending = .finished ∨ ending = .cutOff) (more : Nat) :
    let texts := parts.map (·.2)
    start.answers d (chunks.map .chunk ++ ending :: later) ((verdicts d texts).length + more) =
      verdicts d texts ++ List.replicate more .ended := by
  intro texts
  have serves : ∀ before part after, parts = before ++ part :: after →
      Serves (Brittle d) d (ending :: later) part.2 (joined after tail) := by
    intro before part after split
    rcases enclosed_or_scalar (values part (by simp [split])) with enclosed | scalar
    · exact serves_of_enclosed d _ enclosed _
    · exact serves_of_scalar d proper later scalar (parted before part after split scalar)
  have uncut : Uncut (Brittle d) parts [] chunks := by
    rintro before part after split (number | ⟨word, hasty⟩)
    · exact numbers before part after split number
    · exact literals.resolve_left hasty before part after split word
  have tracks : start.Tracks := tracks_keep []
  have whole : start.pending ++ chunks.flatten = joined parts tail := cut
  obtain ⟨after, left, ran, done⟩ := run_of_parts d (ending :: later) tracks rfl blanks serves whole uncut
  rw [answers_add d ran]
  cases done with
  | refused _ closed => rw [answers_of_closed d closed]
  | @past taken others _ same events past =>
    have whole : [] ++ (taken ++ others).flatten = joined (parts ++ []) tail := by
      rw [List.append_nil, List.nil_append, ← same, cut]
    have left : after.pending ++ others.flatten = tail := past.left whole
    rw [events, answers_of_blank d past.tracks past.opened (left ▸ rest) proper]

/-- Literals, one of them cut, and a number in front of a list. -/
theorem scalars_in_order_booleans :
    start.answers Decoder.bool
        [.chunk [0x74, 0x72], .chunk [0x75, 0x65], .chunk [0x20, 0x66, 0x61, 0x6C, 0x73, 0x65, 0x20],
          .chunk [0x31, 0x32], .chunk [0x5B], .chunk [0x5D], .cutOff] 5 =
      [.value true, .value false, .refused (.wrongType (.number (.integer 12)) .boolean), .ended,
        .ended] := by
  have number : NumeralText [0x31, 0x32] := by
    have whole : Whole [0x31, 0x32] := ⟨⟨by simp, rfl⟩, nofun⟩
    exact .positive whole .none .none
  have numbers : Uncut NumeralText [([], [0x74, 0x72, 0x75, 0x65]), ([0x20], [0x66, 0x61, 0x6C, 0x73, 0x65]),
      ([0x20], [0x31, 0x32]), ([], [0x5B, 0x5D])] []
      [[0x74, 0x72], [0x75, 0x65], [0x20, 0x66, 0x61, 0x6C, 0x73, 0x65, 0x20], [0x31, 0x32], [0x5B],
        [0x5D]] := by
    rintro (_ | ⟨_, _ | ⟨_, _ | ⟨_, _ | ⟨_, _ | ⟨_, _⟩⟩⟩⟩⟩) part after split numeral <;> cases split
    · cases numeral.bytes
    · cases numeral.bytes
    · intro first initial
      have among := (List.mem_inits first _).mpr initial
      clear initial
      revert first
      decide
    · cases numeral.bytes
  have list : Spells .value [0x5B, 0x5D] := @Spells.noItems [] rfl
  exact scalars_in_order Decoder.bool _ [] _ .cutOff [] (by decide)
    (by simp [Spells.trueWord, Spells.falseWord, Spells.numeral number, list])
    (by
      rintro (_ | ⟨_, _ | ⟨_, _ | ⟨_, _ | ⟨_, _ | ⟨_, _⟩⟩⟩⟩⟩) part after split scalar <;> cases split
      · rfl
      · rfl
      · rfl
      · rfl) rfl rfl numbers (.inl (.inl ⟨_, rfl, rfl⟩)) (.inr rfl) 2

/-- A decoder that takes whatever there is takes the front of a literal, and the end is not told next. And a
decoder of flags refuses a number, which is told before the end. -/
theorem literal_in_two :
    let taking : Decoder Unit := ⟨fun _ _ => .ok ()⟩
    let word : Bytes := [0x74, 0x72, 0x75, 0x65]
    (Spells .value word ∧ taking.ofText word = .ok () ∧
      Uncut NumeralText [([], word)] [] [[0x74, 0x72], [0x75, 0x65]] ∧
      start.answers taking [.chunk [0x74, 0x72], .chunk [0x75, 0x65], .finished] 2 ≠ [.value (), .ended]) ∧
    start.answers Decoder.bool [.chunk (word ++ [0x20, 0x31, 0x37]), .finished] 3 =
      [.value true, .refused (.wrongType (.number (.integer 17)) .boolean), .ended] := by
  intro taking word
  refine ⟨⟨Spells.trueWord, rfl, ?_, ?_⟩, rfl⟩
  · rintro (_ | ⟨_, _ | _⟩) part after split number <;> cases split
    cases number.bytes
  · intro told
    cases told

end Feed

end TezosNode.Body
