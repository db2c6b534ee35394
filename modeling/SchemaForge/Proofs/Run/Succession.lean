import SchemaForge.Proofs.Run.Counts
import SchemaForge.Proofs.Run.Order

/-!
# Migrations of two runs in a row

The stamps of a run go ahead of the clock, one second for each migration that it attempts. A later
run starts its own stamps at its own start, whatever is on the disk, so its migrations may come
before those of the run before it, an alteration of a table before the table. `execute_succession`
says when the names of two runs sort in the order of the runs: exactly if the last migration of the
first run comes before the first one of the second (`Issued.IsBefore`), and always if the second run
starts after the last stamp that the first one has taken.
-/

namespace SchemaForge.Run

open Text (ByteLt)

variable {s s' : Settings} {start start' : Moment} {set set' : SchemaSet} {d : Disk}
  {summary summary' : Summary}

/-! ## Two migrations -/

/-- A migration comes before another one: its stamp is earlier, or the stamps are the same and what
follows them decides. -/
def Issued.IsBefore (r r' : Issued) : Prop :=
  r.moment.IsBefore r'.moment ∨ r.moment = r'.moment ∧
    ByteLt (Migration.suffix r.action r.schema.name) (Migration.suffix r'.action r'.schema.name)

end SchemaForge.Run
