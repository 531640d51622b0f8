import CatalogIntake.Proofs.Pipeline.Point

namespace CatalogIntake

namespace Point

def movesToRead (settings : ImportSettings) (unread : Nat) : Nat :=
  (2 * settings.publishRetries + 5) * unread + (2 * settings.publishRetries + 9)

/-- At most so many moves are left after the rejected rows have been counted. -/
def movesAfter (settings : ImportSettings) (unread : Nat) (atEnd : Bool) : Nat :=
  if atEnd then 4 else movesToRead settings unread

/-- At most so many moves are left from this point, with so many events unread. -/
def movesLeft (settings : ImportSettings) (unread : Nat) : Point → Nat
  | reading => movesToRead settings unread
  | opening atEnd => movesAfter settings unread atEnd + 2 * settings.publishRetries + 4
  | publishing atEnd _ _ retries => movesAfter settings unread atEnd + 2 * retries + 3
  | pausing atEnd _ _ retries => movesAfter settings unread atEnd + 2 * retries + 4
  | flushing atEnd => movesAfter settings unread atEnd + 2
  | counting atEnd _ => movesAfter settings unread atEnd + 1
  | totalling => 4
  | completing => 3
  | confirming => 2
  | stopping | failing _ => 1
  | ended _ => 0

theorem four_le_movesAfter (settings : ImportSettings) (unread : Nat) (atEnd : Bool) :
    4 ≤ movesAfter settings unread atEnd := by
  unfold movesAfter movesToRead
  split <;> omega

end Point

namespace Producing

variable {settings : ImportSettings} {p next : Producing}

def movesLeft (settings : ImportSettings) (p : Producing) : Nat :=
  p.point.movesLeft settings p.unread.length

/-- After the rejected rows there is the next event, the total or the failure. -/
theorem movesLeft_proceed (settings : ImportSettings) (p : Producing) (atEnd : Bool) :
    (p.proceed atEnd).movesLeft settings ≤ Point.movesAfter settings p.unread.length atEnd := by
  unfold proceed
  cases atEnd with
  | false => exact Nat.le_refl _
  | true =>
    rw [if_pos rfl]
    split
    · exact (by decide : 1 ≤ 4)
    · exact Nat.le_refl _

theorem movesLeft_onEvent (settings : ImportSettings) (run : ProducerRun) (rest : List RowEvent)
    (event : RowEvent) : (onEvent settings run rest event).movesLeft settings <
      Point.movesToRead settings (rest.length + 1) := by
  have hmore : Point.movesToRead settings (rest.length + 1) =
      Point.movesToRead settings rest.length + (2 * settings.publishRetries + 5) := by
    unfold Point.movesToRead
    rw [Nat.mul_succ]
    omega
  rw [hmore]
  cases event with
  | parsed record =>
    simp only [onEvent]
    split
    · show Point.movesToRead settings rest.length + 2 * settings.publishRetries + 4 < _
      omega
    · show Point.movesToRead settings rest.length < _
      omega
  | rejected rowNumber message raw =>
    simp only [onEvent]
    split
    · show Point.movesToRead settings rest.length + 2 < _
      omega
    · show Point.movesToRead settings rest.length < _
      omega
  | fault fault =>
    show 1 < _
    omega

theorem Goes.movesLeft_lt (h : Goes settings p next) :
    next.movesLeft settings < p.movesLeft settings := by
  obtain ⟨run, unread, point⟩ := p
  cases h with
  | sourceEnded at_ unread_ =>
    obtain rfl : point = .reading := at_
    obtain rfl : unread = [] := unread_
    show 4 + 2 * settings.publishRetries + 4 < Point.movesToRead settings 0
    unfold Point.movesToRead
    omega
  | @taken event rest at_ unread_ =>
    obtain rfl : point = .reading := at_
    obtain rfl : unread = event :: rest := unread_
    exact movesLeft_onEvent settings run rest event
  | @nothingToPublish atEnd at_ _ =>
    obtain rfl : point = .opening atEnd := at_
    show Point.movesAfter settings unread.length atEnd + 2 <
      Point.movesAfter settings unread.length atEnd + 2 * settings.publishRetries + 4
    omega
  | @nothingToFlush atEnd at_ _ =>
    obtain rfl : point = .flushing atEnd := at_
    have hproceed := movesLeft_proceed settings ⟨run, unread, .flushing atEnd⟩ atEnd
    show _ < Point.movesAfter settings unread.length atEnd + 2
    exact Nat.lt_succ_of_le (Nat.le_succ_of_le hproceed)

theorem Asks.movesLeft_lt {c : Call} {answer : c.Answer} (h : Asks settings p c answer next) :
    next.movesLeft settings < p.movesLeft settings := by
  obtain ⟨run, unread, point⟩ := p
  have hafter := Point.four_le_movesAfter settings unread.length
  cases h with
  | @counted atEnd rejected _ at_ =>
    obtain rfl : point = .counting atEnd rejected := at_
    exact Nat.lt_succ_of_le (movesLeft_proceed settings ⟨run, unread, _⟩ atEnd)
  | @jobUnavailable atEnd _ at_ _ | @jobGone atEnd at_ _ | @processing atEnd _ at_ _ _
  | @cancelled atEnd _ at_ _ _ | @inactive atEnd _ at_ _ _ _ =>
    obtain rfl : point = .opening atEnd := at_
    have := hafter atEnd
    simp only [movesLeft, moveTo, Point.movesLeft]
    omega
  | @published atEnd chunk attempts retries at_ | @publishedAgain atEnd chunk attempts retries _ at_
  | @notPublished atEnd chunk attempts _ at_ =>
    obtain rfl := at_
    have := hafter atEnd
    simp only [movesLeft, moveTo, Point.movesLeft]
    omega
  | @paused atEnd chunk attempts retries _ at_ | @uncounted atEnd _ _ at_ | @logged atEnd _ at_ _ =>
    obtain rfl := at_
    have := hafter atEnd
    simp only [movesLeft, moveTo, Point.movesLeft]
    omega
  | notTotalled at_ | totalled at_ | unchecked at_ | notDone at_ | completed at_ | unconfirmed at_
  | confirmed at_ | stopped at_ | failed at_ =>
    obtain rfl := at_
    simp only [movesLeft, moveTo, Point.movesLeft]
    omega

end Producing

end CatalogIntake
