/-!
# Line differences

The difference between two texts is written from a shortest script of edits on their lines, whose
runs are joined where that changes nothing.
-/
namespace PacketFilter.Difference

/-! ## Edit scripts between two lists of lines

A script turns one list of lines into another by keeping, removing and adding runs of lines. A
shortest script is found by divide and conquer: what both lists start and end with is kept, and
the rest is cut where searches from both ends meet. -/

/-- What happens to a run of lines. -/
inductive Fate where
  /-- In both lists. -/
  | kept
  /-- In the old list only. -/
  | removed
  /-- In the new list only. -/
  | added
  deriving DecidableEq, Repr

/-- A run of lines with one fate. -/
structure Run where
  /-- What happens to the lines. -/
  fate : Fate
  /-- The lines. -/
  lines : List String
  deriving DecidableEq, Repr

/-- The longest common beginning of two lists. -/
def commonStart : List String → List String → List String
  | left :: lefts, right :: rights =>
    if left = right then left :: commonStart lefts rights else []
  | _, _ => []

/-- The longest common end of two lists. -/
def commonEnd (left right : List String) : List String :=
  (commonStart left.reverse right.reverse).reverse

/-- The runs that are not empty. -/
def runs (candidates : List Run) : List Run := candidates.filter fun run => !run.lines.isEmpty

/-! ### The search for a cut

Positions in the two lists are points, and diagonal `k` holds the points whose first coordinate
exceeds the second by `k`. A search keeps the furthest point of each diagonal that it reaches with
a number of removals and additions. -/

/-- The furthest first coordinate on each diagonal, by the diagonal shifted by an offset. -/
structure Frontier where
  /-- The index of diagonal zero. -/
  offset : Nat
  /-- The coordinates. -/
  reach : Array Nat

namespace Frontier

/-- A frontier for diagonals up to a distance from zero. -/
def start (distance : Nat) : Frontier := ⟨distance, Array.replicate (2 * distance + 1) 0⟩

/-- The coordinate on a diagonal. -/
def get (frontier : Frontier) (diagonal : Int) : Nat :=
  frontier.reach.getD (diagonal + frontier.offset).toNat 0

/-- Put a coordinate on a diagonal. -/
def set (frontier : Frontier) (diagonal : Int) (reach : Nat) : Frontier :=
  { frontier with
    reach := frontier.reach.setIfInBounds (diagonal + frontier.offset).toNat reach }

/-- Where the next step on a diagonal starts: the further of a step from either neighbour. -/
def step (frontier : Frontier) (rounds : Nat) (diagonal : Int) : Nat :=
  if diagonal = -rounds ∨
      (diagonal ≠ rounds ∧ frontier.get (diagonal - 1) < frontier.get (diagonal + 1)) then
    frontier.get (diagonal + 1)
  else frontier.get (diagonal - 1) + 1

end Frontier

/-- The number of equal lines from a point on. -/
def slideForward (old new : Array String) : Nat → Nat → Nat → Nat
  | 0, _, _ => 0
  | fuel + 1, x, y =>
    match old[x]?, new[y]? with
    | some left, some right =>
      if left = right then slideForward old new fuel (x + 1) (y + 1) + 1 else 0
    | _, _ => 0

/-- The number of equal lines back from a point that is given by its distance from the ends. -/
def slideBackward (old new : Array String) (fuel x y : Nat) : Nat :=
  slideForward old.reverse new.reverse fuel x y

/-- The outcome of a round of a search: a point to cut at, or the frontier to go on with. -/
abbrev Round := (Nat × Nat) ⊕ Frontier

/-- One round of the search from the start, diagonal by diagonal from a given one down. A cut is
found where it meets the search from the end, which is one round behind. -/
def forwardRound (old new : Array String) (back : Frontier) (rounds : Nat) :
    Nat → Int → Frontier → Round
  | 0, _, frontier => .inr frontier
  | steps + 1, diagonal, frontier =>
    let x := frontier.step rounds diagonal
    let y := ((x : Int) - diagonal).toNat
    let reach := x + slideForward old new old.size x y
    let frontier := frontier.set diagonal reach
    let shift : Int := (old.size : Int) - new.size
    let opposite := diagonal - shift
    if shift % 2 = 1 ∧ opposite.natAbs + 1 ≤ rounds ∧
        old.size ≤ reach + back.get (-opposite) then .inl (x, y)
    else forwardRound old new back rounds steps (diagonal - 2) frontier

/-- One round of the search from the end. A cut is found where it meets the search from the
start. -/
def backwardRound (old new : Array String) (front : Frontier) (rounds : Nat) :
    Nat → Int → Frontier → Round
  | 0, _, frontier => .inr frontier
  | steps + 1, diagonal, frontier =>
    let x := frontier.step rounds diagonal
    let y := ((x : Int) - diagonal).toNat
    let slide := slideBackward old new old.size x y
    let reach := x + slide
    let frontier := frontier.set diagonal reach
    let shift : Int := (old.size : Int) - new.size
    let opposite := diagonal - shift
    if shift % 2 = 0 ∧ opposite.natAbs ≤ rounds ∧
        old.size ≤ reach + front.get (-opposite) then
      .inl (old.size - reach, new.size - (y + slide))
    else backwardRound old new front rounds steps (diagonal - 2) frontier

/-- Rounds of both searches in turn, until they meet. -/
def meet (old new : Array String) : Nat → Nat → Frontier → Frontier → Option (Nat × Nat)
  | 0, _, _, _ => none
  | fuel + 1, rounds, front, back =>
    match forwardRound old new back rounds (rounds + 1) rounds front with
    | .inl point => some point
    | .inr front =>
      match backwardRound old new front rounds (rounds + 1) rounds back with
      | .inl point => some point
      | .inr back => meet old new fuel (rounds + 1) front back

/-- The point at which to cut two lists. -/
def cut? (old new : Array String) : Option (Nat × Nat) :=
  let limit := (old.size + new.size + 1) / 2 + 1
  meet old new limit 0 (.start (limit + 1)) (.start (limit + 1))

/-- The script for the middle parts of two lists, neither of which is empty. -/
def scriptBetween (fuel : Nat) (old new : List String) : List Run :=
  match fuel with
  | 0 => [⟨.removed, old⟩, ⟨.added, new⟩]
  | fuel + 1 =>
    let start := commonStart old new
    let old := old.drop start.length
    let new := new.drop start.length
    let ending := commonEnd old new
    let old := old.take (old.length - ending.length)
    let new := new.take (new.length - ending.length)
    let middle :=
      if old.isEmpty || new.isEmpty then [⟨.removed, old⟩, ⟨.added, new⟩]
      else
        match cut? old.toArray new.toArray with
        | none => [⟨.removed, old⟩, ⟨.added, new⟩]
        | some (x, y) =>
          scriptBetween fuel (old.take x) (new.take y) ++
            scriptBetween fuel (old.drop x) (new.drop y)
    runs ([⟨.kept, start⟩] ++ middle ++ [⟨.kept, ending⟩])

/-- A shortest script from the old list to the new one. -/
def script (old new : List String) : List Run :=
  scriptBetween (old.length + new.length + 1) old new

/-! ## Joining runs of a script

A removed or added run changes places with a run of the other of these fates, and is joined with
one of its own. An added run also slides over kept lines that repeat its own lines; a removed run
stays behind the kept lines before it. Each is moved up as far as it goes and then down as far as
it goes. -/

/-- A run of a script with the runs before it, nearest first, and those after it. -/
structure Focus where
  /-- The runs before, nearest first. -/
  before : List Run
  /-- The run itself. -/
  run : Run
  /-- The runs after. -/
  after : List Run

/-- Kept lines put before runs, joined with kept lines that these start with. -/
def prependKept (lines : List String) : List Run → List Run
  | [] => [⟨.kept, lines⟩]
  | run :: rest =>
    if run.fate = .kept then ⟨.kept, lines ++ run.lines⟩ :: rest else ⟨.kept, lines⟩ :: run :: rest

/-- Kept lines put after runs that are listed nearest first. -/
def appendKept (lines : List String) : List Run → List Run
  | [] => [⟨.kept, lines⟩]
  | run :: rest =>
    if run.fate = .kept then ⟨.kept, run.lines ++ lines⟩ :: rest else ⟨.kept, lines⟩ :: run :: rest

/-- The lines that a run shares with kept lines beside it, as a function finds them: only an added
run slides over these. -/
def Run.shared (run : Run) (common : List String → List String → List String)
    (kept : List String) : List String :=
  if run.fate = .added then common kept run.lines else []

/-- Move a removed or added run up as far as it goes. -/
def moveUp : Nat → Focus → Focus
  | 0, focus => focus
  | fuel + 1, focus =>
    match focus.before with
    | [] => focus
    | previous :: before =>
      if previous.fate = .kept then
        let shared := focus.run.shared commonEnd previous.lines
        let kept := previous.lines.take (previous.lines.length - shared.length)
        let before := if kept.isEmpty then before else ⟨.kept, kept⟩ :: before
        if shared.isEmpty then
          if kept.isEmpty then moveUp fuel { focus with before } else focus
        else
          let rest := focus.run.lines.take (focus.run.lines.length - shared.length)
          moveUp fuel
            { before, run := { focus.run with lines := shared ++ rest },
              after := prependKept shared focus.after }
      else if previous.fate = focus.run.fate then
        let lines := previous.lines ++ focus.run.lines
        moveUp fuel { focus with before, run := { focus.run with lines } }
      else moveUp fuel { focus with before, after := previous :: focus.after }

/-- Move a removed or added run down as far as it goes. -/
def moveDown : Nat → Focus → Focus
  | 0, focus => focus
  | fuel + 1, focus =>
    match focus.after with
    | [] => focus
    | next :: after =>
      if next.fate = .kept then
        let shared := focus.run.shared commonStart next.lines
        let kept := next.lines.drop shared.length
        let after := if kept.isEmpty then after else ⟨.kept, kept⟩ :: after
        if shared.isEmpty then
          if kept.isEmpty then moveDown fuel { focus with after } else focus
        else
          let rest := focus.run.lines.drop shared.length
          moveDown fuel
            { before := appendKept shared focus.before,
              run := { focus.run with lines := rest ++ shared }, after }
      else if next.fate = focus.run.fate then
        let lines := focus.run.lines ++ next.lines
        moveDown fuel { focus with after, run := { focus.run with lines } }
      else moveDown fuel { focus with before := next :: focus.before, after }

/-- Move the runs of one fate up and down, first to last. The first list holds the runs that are
dealt with, last to first. -/
def settleFate (fate : Fate) (reach : Nat) : Nat → List Run → List Run → List Run
  | 0, done, rest => done.reverse ++ rest
  | _ + 1, done, [] => done.reverse
  | fuel + 1, done, run :: rest =>
    if run.fate = fate then
      let moved := moveDown reach (moveUp reach ⟨done, run, rest⟩)
      settleFate fate reach fuel (moved.run :: moved.before) moved.after
    else settleFate fate reach fuel (run :: done) rest

/-- The script with its removed runs settled, and then its added ones. -/
def compact (script : List Run) : List Run :=
  let size := script.foldl (fun size run => size + (run.lines.length + 1)) 0
  let reach := 4 * size + 4
  settleFate .added reach reach [] (settleFate .removed reach reach [] script)

/-! ## Line differences as text

Every line of either text is written once, after a space if it is in both, a minus if it is in
the old text only, and a plus if it is in the new text only. Between kept lines, the lines that go
stand before those that come. A line includes its line end, which is a line feed, a carriage
return, or both. -/

/-- The lines of a text with their ends. -/
def linesWithEnds : List Char → List (List Char)
  | [] => []
  | '\r' :: '\n' :: rest => ['\r', '\n'] :: linesWithEnds rest
  | char :: rest =>
    if char = '\n' ∨ char = '\r' then [char] :: linesWithEnds rest
    else
      match linesWithEnds rest with
      | [] => [[char]]
      | line :: lines => (char :: line) :: lines

/-- The sign in front of a line. -/
def Fate.sign : Fate → String
  | kept => " "
  | removed => "-"
  | added => "+"

/-- The lines of a run with their signs. -/
def Run.text (run : Run) : String := String.join (run.lines.map (run.fate.sign ++ ·))

/-- The runs with the removed ones before the added ones between kept lines. -/
def removedFirst : List Run → List Run
  | [] => []
  | run :: rest =>
    match removedFirst rest with
    | next :: others =>
      if run.fate = .added ∧ next.fate = .removed then next :: putAdded run others
      else run :: next :: others
    | [] => [run]
where
  /-- Put an added run before the first run that is not removed. -/
  putAdded (run : Run) : List Run → List Run
    | [] => [run]
    | next :: others =>
      if next.fate = .removed then next :: putAdded run others else run :: next :: others

/-- The difference between two texts, old and new. -/
def text (old new : String) : String :=
  let linesOf (text : String) := (linesWithEnds text.toList).map String.ofList
  String.join ((removedFirst (compact (script (linesOf old) (linesOf new)))).map Run.text)

end PacketFilter.Difference
