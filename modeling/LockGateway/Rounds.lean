import LockGateway.Traffic

/-! The schedule of a gateway that shares a single thread with the peer of its relay. The
gateway looks at the calls of a batch in rounds, and begins one call later in each: it
looks at the replies that came back, and posts the requests that there are places for by
then. Before the next round all that was posted is handled, in the order in which it was
posted. -/

namespace LockGateway

/-- The calls of a batch in a round, by their places in the batch. -/
structure Round where
  /-- There are places for the calls before this one. -/
  admitted : Nat
  waiting : List Nat
  replied : List Nat
  /-- What was posted in this round. -/
  posted : List Nat
  moves : List Move

namespace Round

/-- The first round. Each call is made, and posted if there is room for it. -/
def first (room left calls : Nat) : Round :=
  let admitted := min room calls
  { admitted
    waiting := (List.range calls).drop admitted
    replied := []
    posted := List.range admitted
    moves := List.replicate calls .make ++ List.replicate left (.settle 0) }

/-- Comes to a call. -/
def visit (round : Round) (call : Nat) : Round :=
  if round.replied.contains call then
    { round with
      replied := round.replied.erase call
      moves := round.moves ++ [.look (round.replied.idxOf call)] }
  else if round.waiting.contains call && call < round.admitted then
    { round with
      waiting := round.waiting.erase call
      posted := round.posted ++ [call]
      moves := round.moves ++ [.post (round.waiting.idxOf call)] }
  else round

/-- The round after it, at its beginning: what was posted is handled, and has left its
places to others. -/
def next (round : Round) (capacity calls : Nat) : Round :=
  { admitted := min (round.admitted + capacity) calls
    waiting := round.waiting
    replied := round.replied ++ round.posted
    posted := []
    moves := round.moves ++ round.posted.map fun _ => .handle 0 }

end Round

namespace Schedule

/-- Further rounds over the calls of a batch. -/
def laterRounds (capacity calls : Nat) : (count number : Nat) → Round → List Move
  | 0, _, round => round.moves
  | count + 1, number, round =>
      let order := (List.range calls).rotateLeft number
      laterRounds capacity calls count (number + 1)
        (order.foldl Round.visit (round.next capacity calls))

/-- Rounds over a channel that holds one request at least. -/
def rounds (capacity : Nat) : Schedule := fun _ left calls =>
  let capacity := max capacity 1
  laterRounds capacity calls (calls + 1) 1 (.first (capacity - left) left calls)

example : rounds 1 0 0 2 =
    [.make, .make, .handle 0, .post 0, .look 0, .handle 0, .look 0] := by
  decide

end Schedule

end LockGateway
