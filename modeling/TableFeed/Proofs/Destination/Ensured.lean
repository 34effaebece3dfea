import TableFeed.Proofs.Destination.Coherence

/-!
# Ensuring columns again and again

All that ensuring columns does to a connection is to make calls over it
(`ensureColumns_later`).  `Ensured` relates a destination to those that any number of
such steps lead to, whatever the tables and the events; along it the cache stays true and
no column is lost.
-/

namespace TableFeed.Destination

variable {database table : String} {evolution : Evolution} {d d' : Destination}

/-! ## Calls -/

theorem confirm_later (database table : String) (d : Destination) :
    d.connection.Later (d.confirm database table).2.connection := by
  have hstep := Connection.Later.step (.lookup d.connection database table)
  unfold confirm
  split
  · exact .refl _
  · split
    · next heq => rwa [heq] at hstep
    · next heq => rwa [heq] at hstep
    · next heq => rwa [heq] at hstep

theorem load_later (database table : String) (d : Destination) :
    d.connection.Later (d.load database table).2.connection := by
  have hstep := Connection.Later.step (.load d.connection database table)
  unfold load
  split
  · next heq => rwa [heq] at hstep
  · next heq => rwa [heq] at hstep

theorem current_later (database table : String) (d : Destination) :
    d.connection.Later (d.current database table).2.connection := by
  unfold current
  split
  · exact .refl _
  · exact load_later database table d

theorem evolve_later (database : String) (evolution : Evolution) (table : String)
    (fields : List EventField) (d : Destination) :
    d.connection.Later (d.evolve database evolution table fields).2.connection := by
  unfold evolve
  split
  · exact .refl _
  · split
    · next hadded => exact addColumns_later hadded
    · next connection hadded =>
      have hload := load_later database table { d with connection := connection }
      exact (addColumns_later hadded).trans hload

/-- Ensuring columns makes calls and does nothing else to the connection. -/
theorem ensureColumns_later (database : String) (evolution : Evolution) (table : String)
    (event : Event) (d : Destination) :
    d.connection.Later (d.ensureColumns database evolution table event).2.connection := by
  have hconfirm := confirm_later database table d
  unfold ensureColumns
  split
  · next heq => rwa [heq] at hconfirm
  · next confirmed heq =>
    rw [heq] at hconfirm
    have hcurrent := current_later database table confirmed
    split
    · next hfailed => exact hconfirm.trans (by rwa [hfailed] at hcurrent)
    · next hloaded =>
      rw [hloaded] at hcurrent
      split
      · exact hconfirm.trans hcurrent
      · exact (hconfirm.trans hcurrent).trans (evolve_later database evolution table _ _)

/-! ## Any number of steps -/

/-- Columns were ensured any number of times. -/
def Ensured (database : String) (evolution : Evolution) : Destination → Destination → Prop :=
  Relation.ReflTransGen fun d d' =>
    ∃ table event, d' = (d.ensureColumns database evolution table event).2

namespace Ensured

theorem refl (d : Destination) : Ensured database evolution d d :=
  Relation.ReflTransGen.refl

theorem trans {first second third : Destination} (h : Ensured database evolution first second)
    (h' : Ensured database evolution second third) : Ensured database evolution first third :=
  Relation.ReflTransGen.trans h h'

theorem step (database : String) (evolution : Evolution) (table : String) (event : Event)
    (d : Destination) :
    Ensured database evolution d (d.ensureColumns database evolution table event).2 :=
  Relation.ReflTransGen.single ⟨table, event, rfl⟩

theorem later (h : Ensured database evolution d d') : d.connection.Later d'.connection := by
  induction h with
  | refl => exact .refl _
  | tail _ hstep ih =>
    obtain ⟨table, event, rfl⟩ := hstep
    exact ih.trans (ensureColumns_later database evolution table event _)

theorem coherent (h : Ensured database evolution d d') (hd : d.Coherent database) :
    d'.Coherent database := by
  induction h with
  | refl => exact hd
  | tail _ hstep ih =>
    obtain ⟨table, event, rfl⟩ := hstep
    exact ensureColumns_coherent ih

end Ensured

end TableFeed.Destination
