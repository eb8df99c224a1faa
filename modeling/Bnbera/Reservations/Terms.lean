import Bnbera.Reservations.Single

namespace Bnbera.Reservations

open Interleaving

section
variable {store : ReservationStore} {rows later : List ReservationRow} {row : ReservationRow} {request : QuoteReservation}
  {answers : Transacted} {commerceJobId buyerUserId : String} {now : Nat}

/-- The row is there as it was, or claimed since. -/
def ReservationRow.Stays (row : ReservationRow) (rows : List ReservationRow) : Prop :=
  row ∈ rows ∨ row.status = .draft ∧ { row with status := .negotiating } ∈ rows

theorem ReservationRow.Stays.onward (stays : row.Stays rows) (kept : ∀ other ∈ rows, other.Stays later) : row.Stays later := by
  rcases stays with member | ⟨draft, member⟩
  · exact kept row member
  · rcases kept _ member with still | ⟨again, _⟩
    · exact .inr ⟨draft, still⟩
    · cases again

theorem claimedRow_id : (claimedRow commerceJobId buyerUserId row).id = row.id := by
  unfold claimedRow
  split <;> rfl

theorem claimedRow_eq : claimedRow commerceJobId buyerUserId row = row ∨
    row.status = .draft ∧ claimedRow commerceJobId buyerUserId row = { row with status := .negotiating } := by
  unfold claimedRow
  split
  · rename_i claims
    exact .inr ⟨claims.2.2, rfl⟩
  · exact .inl rfl

theorem insert_fresh {capacity : Except Failure Unit} : (ReservationStore.insert request capacity rows).2 = rows ∨
    (ReservationStore.insert request capacity rows).2 = rows ++ [ReservationStore.inserted request] ∧
      ∀ row ∈ rows, row.id ≠ request.snapshot.quoteId := by
  unfold ReservationStore.insert
  split
  · exact .inl rfl
  · rename_i unused
    have fresh : ∀ row ∈ rows, row.id ≠ request.snapshot.quoteId := fun row member same => unused ⟨row, member, same⟩
    split
    · split
      · exact .inl rfl
      · exact .inr ⟨rfl, fresh⟩
    · exact .inr ⟨rfl, fresh⟩

theorem reserve_fresh : (store.reserve request answers rows).2 = rows ∨
    (store.reserve request answers rows).2 = rows ++ [ReservationStore.inserted request] ∧
      ∀ row ∈ rows, row.id ≠ request.snapshot.quoteId := by
  unfold ReservationStore.reserve
  split
  · exact insert_fresh
  · split
    · exact .inl rfl
    · exact .inl rfl
    · exact insert_fresh

end

section
variable [Sha256] {store : ReservationStore} {circumstances : Circumstances} {s after : ReservationState}
  {row : ReservationRow} {pool later : ReservationPool}

/-- The row that a quote inserted for a listing it had read, or that row claimed. -/
def Drawn (store : ReservationStore) (now : Nat) (row : ReservationRow) : Prop :=
  ∃ request, Drafted store request now ∧ (ReservationStore.inserted request = row ∨
    { ReservationStore.inserted request with status := .negotiating } = row)

theorem Drawn.onward {now ends : Nat} (drawn : Drawn store now row) (passes : now ≤ ends) : Drawn store ends row := by
  obtain ⟨request, drafted, made⟩ := drawn
  exact ⟨request, ⟨drafted.read, drafted.made, drafted.past.trans (Nat.div_le_div_right passes)⟩, made⟩

structure Termed (store : ReservationStore) (s : ReservationState) : Prop where
  apart : (s.rows.map (·.id)).Nodup
  drawn : ∀ row ∈ s.rows, Drawn store s.now row

theorem Moved.stays (moved : Moved store circumstances s after) (member : row ∈ s.rows) : row.Stays after.rows := by
  cases moved with
  | same => exact .inl member
  | @reserved request answers =>
    refine .inl ?_
    rcases @reserve_fresh store s.rows request answers with same | ⟨same, _⟩
    · exact same.symm ▸ member
    · exact same.symm ▸ List.mem_append_left _ member
  | @claimed commerceJobId buyerUserId =>
    rcases @claimReservation_rows s.rows commerceJobId buyerUserId s.now with same | same
    · exact .inl (same.symm ▸ member)
    · have there : claimedRow commerceJobId buyerUserId row ∈ s.rows.map (claimedRow commerceJobId buyerUserId) :=
        List.mem_map_of_mem member
      rcases @claimedRow_eq row commerceJobId buyerUserId with kept | ⟨draft, claimed⟩
      · exact .inl (same.symm ▸ kept ▸ there)
      · exact .inr ⟨draft, same.symm ▸ claimed ▸ there⟩

theorem Termed.moved (termed : Termed store s) (moved : Moved store circumstances s after) : Termed store after := by
  cases moved with
  | same => exact termed
  | @reserved request answers drafted =>
    rcases @reserve_fresh store s.rows request answers with same | ⟨same, fresh⟩
    · exact ⟨same.symm ▸ termed.apart, same.symm ▸ termed.drawn⟩
    · refine ⟨?_, fun row member => ?_⟩
      · show ((store.reserve request answers s.rows).2.map (·.id)).Nodup
        rw [same, List.map_append]
        refine List.nodup_append.mpr ⟨termed.apart, List.nodup_singleton _, fun id member other new => ?_⟩
        obtain ⟨row, there, rfl⟩ := List.mem_map.mp member
        rw [List.mem_singleton.mp new]
        exact fresh row there
      · rcases List.mem_append.mp (same ▸ member) with old | new
        · exact termed.drawn row old
        · exact ⟨request, drafted, .inl (List.mem_singleton.mp new).symm⟩
  | @claimed commerceJobId buyerUserId =>
    rcases @claimReservation_rows s.rows commerceJobId buyerUserId s.now with same | same
    · exact ⟨same.symm ▸ termed.apart, same.symm ▸ termed.drawn⟩
    · refine ⟨?_, fun row member => ?_⟩
      · show ((claimReservation s.rows commerceJobId buyerUserId s.now).2.map (·.id)).Nodup
        have ids : (s.rows.map (claimedRow commerceJobId buyerUserId)).map (·.id) = s.rows.map (·.id) := by
          rw [List.map_map]
          exact List.map_congr_left fun _ _ => claimedRow_id
        rw [same, ids]
        exact termed.apart
      · obtain ⟨source, there, rfl⟩ := List.mem_map.mp (same ▸ member)
        obtain ⟨request, drafted, made⟩ := termed.drawn source there
        rcases @claimedRow_eq source commerceJobId buyerUserId with kept | ⟨_, claimed⟩
        · exact kept.symm ▸ ⟨request, drafted, made⟩
        · refine claimed.symm ▸ ⟨request, drafted, .inr ?_⟩
          rcases made with rfl | rfl
          · rfl
          · rfl

namespace ReservationPool

theorem Reach.step_moved (reach : pool.Reach store circumstances)
    (step : (reservationSystem store circumstances).Step pool later) : Moved store circumstances pool.state later.state ∨
      later.state.rows = pool.state.rows ∧ pool.state.now ≤ later.state.now := by
  cases step with
  | start => exact .inl .same
  | call atThread called =>
    exact .inl (reservation_contract.meets reach atThread _ (Nat.le_refl _) _ _ called).1
  | environment moved => exact .inr ⟨moved.1, moved.2.1⟩

theorem Reach.termed (reach : pool.Reach store circumstances) : Termed store pool.state := by
  refine reservation_contract.invariant reach (fun s initial => ?_) (fun _ _ _ moved termed => termed.moved moved)
    fun before after moved termed => ?_
  · refine ⟨?_, fun row member => ?_⟩
    · rw [initial.1]
      exact List.nodup_nil
    · rw [initial.1] at member
      cases member
  · obtain ⟨same, passes, _⟩ := moved
    exact ⟨same.symm ▸ termed.apart, fun row member => Drawn.onward (termed.drawn row (same ▸ member)) passes⟩

end ReservationPool

end

namespace ReservationPool

attribute [local instance] nullSha256

end ReservationPool

end Bnbera.Reservations
