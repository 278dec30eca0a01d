import Scaffold.Chance
import Scaffold.Disk.Basic

/-!
# What a run finds around it

Besides its request, a run depends on the disk, the environment, the clock and chance, and on the
words in which a text is rejected that is no template.
-/

namespace Scaffold

/-- What a run does not decide itself. -/
structure Surroundings where
  disk : Disk
  /-- The variables with their values. -/
  environment : List (String × String)
  /-- The seconds since the beginning of 1970, the same all through a run. -/
  seconds : Int
  chance : Chance
  /-- The messages about a text that is no template, the outermost one first, given the name that it
  goes by. -/
  complaint : (name text : String) → List String

/-- The value of a variable of the environment, empty if it is not set. -/
def Surroundings.variable (around : Surroundings) (name : String) : String :=
  (around.environment.lookup name).getD ""

namespace Surroundings

/-- The same surroundings with something else left to chance. -/
def drawing (around : Surroundings) (chance : Chance) : Surroundings :=
  { around with chance := chance }

/-- The surroundings of a part, which draws from a branch of its own. -/
def part (around : Surroundings) (n : Nat) : Surroundings :=
  around.drawing (around.chance.branch n)

/-- The surroundings of the parts from the `n`-th on. -/
def later (around : Surroundings) (n : Nat) : Surroundings :=
  around.drawing (around.chance.later n)

theorem on_drawing (around : Surroundings) (chance : Chance) (disk : Disk) :
    { around.drawing chance with disk := disk } = { around with disk := disk }.drawing chance := rfl

@[simp] theorem part_drawing (around : Surroundings) (chance : Chance) (n : Nat) :
    (around.drawing chance).part n = around.drawing (chance.branch n) := rfl

@[simp] theorem later_zero (around : Surroundings) : around.later 0 = around := by
  rw [later, Chance.later_zero]
  rfl

@[simp] theorem later_later (around : Surroundings) (m n : Nat) :
    (around.later m).later n = around.later (m + n) := by
  rw [later, later, later, drawing, drawing, Chance.later_later]
  rfl

@[simp] theorem part_later (around : Surroundings) (m n : Nat) :
    (around.later m).part n = around.part (m + n) := rfl

end Surroundings

end Scaffold
