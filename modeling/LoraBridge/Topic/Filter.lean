/-! # Topics and filters

  A topic is a text in levels that `/` separates. A filter names topics: its level `+` stands for
  any one level, and its level `#` for all the levels that are left, none included.
-/

namespace LoraBridge

namespace Topic

/-- The levels of a topic or filter. There is at least one, and any of them may be empty. -/
def levels (s : String) : List (List Char) := s.toList.splitOn '/'

/-- Whether a text may be the topic of a message: it has neither `+` nor `#`. -/
def isTopic (s : String) : Bool := !(s.toList.contains '+' || s.toList.contains '#')

end Topic

namespace Filter

/-- The level that stands for any one level. -/
def anyLevel : List Char := ['+']

/-- The level that stands for all the levels that are left. -/
def anyLevels : List Char := ['#']

/-- Whether the levels of a filter accept the levels of a topic. -/
def acceptsLevels : List (List Char) → List (List Char) → Bool
  | [], [] => true
  | [], _ :: _ => false
  | f :: _, [] => f = anyLevels
  | f :: fs, t :: ts =>
    f = anyLevels || ((f = anyLevel || f = t) && acceptsLevels fs ts)

/-- Whether a filter accepts a topic. -/
def accepts (filter topic : String) : Bool :=
  acceptsLevels (Topic.levels filter) (Topic.levels topic)

/-- Whether a level may stand in a filter: `+` and `#` stand alone. -/
def isLevel (level : List Char) : Bool :=
  level.length ≤ 1 || !(level.contains '+' || level.contains '#')

/-- Whether a text is a filter: it is not empty, its levels may stand in one, and `#` comes last. -/
def isFilter (s : String) : Bool :=
  let levels := Topic.levels s
  !s.isEmpty && levels.all isLevel && !levels.dropLast.contains anyLevels

end Filter

end LoraBridge
