import TezosNode.Model.Operation
import TezosNode.Proofs.Decode.Entries
import TezosNode.Proofs.Model.Variants

namespace TezosNode

open Decode Json Decoder

theorem Content.Manager.fields_tells {α : Type} {make : Manager → α} {shown : α → Option Amount → Prop}
    (told : ∀ m, shown (make m) m.fee) :
    (Manager.fields make).Tells "fee" 1 Amount.decoder.option (some none) shown := by
  have second : "fee" ∉ ["source"] := by decide
  have third : "counter" ∉ ["source", "fee"] := by decide
  have fourth : "gas_limit" ∉ ["source", "fee", "counter"] := by decide
  have fifth : "storage_limit" ∉ ["source", "fee", "counter", "gas_limit"] := by decide
  exact .later fifth (.later fourth (.later third (.last second (.free (.make fun _ _ _ _ _ => told _)))))

namespace Operation

theorem fields_tells_hash : fields.Tells "hash" 2 text (some "") fun o hash => o.hash = hash :=
  .later (by decide) (.later (by decide) (.later (by decide)
    (.last (by decide) (.free (.free (.make fun _ _ _ _ _ _ => rfl))))))

theorem fields_tells_contents :
    fields.Tells "contents" 4 Content.family.list (some []) fun o contents => o.contents = contents :=
  .later (by decide) (.last (by decide) (.free (.free (.free (.free (.make fun _ _ _ _ _ _ => rfl))))))

theorem decoder_shows_contents :
    decoder.Shows "contents" Content.family.list (some []) fun o contents => o.contents = contents :=
  record_shows fields_tells_contents

end Operation

namespace Mempool

theorem decoder_shows_applied :
    decoder.Shows "applied" Operation.decoder.list (some []) fun m pool => m.applied = pool :=
  record_shows (.later (by decide) (.later (by decide) (.later (by decide) (.later (by decide)
    (.last (by decide) (.make fun _ _ _ _ _ => rfl))))))

theorem decoder_shows_refused :
    decoder.Shows "refused" (keyedList RefusedOperation.setHash RefusedOperation.decoder) (some [])
      fun m pool => m.refused = pool :=
  record_shows (.later (by decide) (.later (by decide) (.later (by decide)
    (.last (by decide) (.free (.make fun _ _ _ _ _ => rfl))))))

theorem decoder_shows_branchRefused :
    decoder.Shows "branch_refused" (keyedList RefusedOperation.setHash RefusedOperation.decoder) (some [])
      fun m pool => m.branchRefused = pool :=
  record_shows (.later (by decide) (.later (by decide)
    (.last (by decide) (.free (.free (.make fun _ _ _ _ _ => rfl))))))

theorem decoder_shows_branchDelayed :
    decoder.Shows "branch_delayed" (keyedList RefusedOperation.setHash RefusedOperation.decoder) (some [])
      fun m pool => m.branchDelayed = pool :=
  record_shows (.later (by decide)
    (.last (by decide) (.free (.free (.free (.make fun _ _ _ _ _ => rfl))))))

theorem decoder_shows_unprocessed :
    decoder.Shows "unprocessed" (keyedList Operation.setHash Operation.decoder) (some [])
      fun m pool => m.unprocessed = pool :=
  record_shows (.last (by decide) (.free (.free (.free (.free (.make fun _ _ _ _ _ => rfl))))))

end Mempool

end TezosNode
