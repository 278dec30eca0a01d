/-!
# Chance

A template may draw random numbers, and the arguments of a call are taken in no fixed order. What is
left open in this way is a tree of natural numbers that a computation is given from outside: its
parts draw from branches of their own, so that none of them knows what the others have drawn, and
with the tree every outcome is determined. Main facts: `Chance.between_mem` and `exists_between` say
that a number is drawn from the range that is asked for, and that it can be any number of the range,
`Chance.shuffle_perm` and `exists_shuffle` that an order left open loses nothing and can be any
order, `Chance.deal_append` that items dealt in two portions draw what they draw when dealt at once,
and `Chance.exists_deal` that they may be dealt any branches.
-/

namespace Scaffold

/-- A tree of natural numbers, each under the path of branches that leads to it. -/
def Chance : Type := List Nat → Nat

namespace Chance

/-- The tree that has zeros everywhere. -/
def still : Chance := fun _ => 0

/-- The number at the root. -/
def number (chance : Chance) : Nat := chance []

/-- What hangs at a branch. -/
def branch (chance : Chance) (n : Nat) : Chance := fun path => chance (n :: path)

/-- The tree whose branches are those from the `n`-th on. -/
def later (chance : Chance) (n : Nat) : Chance
  | [] => chance []
  | i :: path => chance ((n + i) :: path)

/-- The tree with a number at its root and branches that are given. -/
def ofBranches (number : Nat) (branch : Nat → Chance) : Chance
  | [] => number
  | n :: path => branch n path

/-- A whole number from `start` to before `stop`. -/
def between (chance : Chance) (start stop : Int) : Int :=
  start + (chance.number : Int) % (stop - start)

/-- Some items, each with a branch of its own. -/
def deal {α : Type} (chance : Chance) : List α → List (α × Chance)
  | [] => []
  | a :: rest => (a, chance.branch 0) :: deal (chance.later 1) rest

/-- Some items in an order that is left open: each one is put anywhere among those behind it. -/
def shuffle {α : Type} (chance : Chance) : List α → List α
  | [] => []
  | a :: rest =>
    (shuffle (chance.branch 0) rest).insertIdx (chance.number % (rest.length + 1)) a

theorem between_mem (chance : Chance) {start stop : Int} (h : start < stop) :
    start ≤ chance.between start stop ∧ chance.between start stop < stop := by
  have hpos : 0 < stop - start := by omega
  have hlow := Int.emod_nonneg (chance.number : Int) (Int.ne_of_gt hpos)
  have hhigh := Int.emod_lt_of_pos (chance.number : Int) hpos
  unfold between
  omega

/-- Any number of a range can be drawn. -/
theorem exists_between {start stop n : Int} (hlow : start ≤ n) (hhigh : n < stop) :
    ∃ chance : Chance, chance.between start stop = n := by
  refine ⟨fun _ => (n - start).toNat, ?_⟩
  have hnumber : ((n - start).toNat : Int) = n - start := Int.toNat_of_nonneg (by omega)
  unfold between number
  rw [hnumber, Int.emod_eq_of_lt (by omega) (by omega)]
  omega

@[simp] theorem later_zero (chance : Chance) : chance.later 0 = chance := by
  funext path
  cases path with
  | nil => rfl
  | cons i path => simp [later]

@[simp] theorem later_later (chance : Chance) (m n : Nat) :
    (chance.later m).later n = chance.later (m + n) := by
  funext path
  cases path with
  | nil => rfl
  | cons i path => simp [later, Nat.add_assoc]

theorem deal_append {α : Type} (chance : Chance) (first second : List α) :
    chance.deal (first ++ second) =
      chance.deal first ++ (chance.later first.length).deal second := by
  induction first generalizing chance with
  | nil => simp [deal]
  | cons a rest ih => simp [deal, ih, Nat.add_comm]

theorem length_deal {α : Type} (chance : Chance) (items : List α) :
    (chance.deal items).length = items.length := by
  induction items generalizing chance with
  | nil => rfl
  | cons a rest ih => rw [deal, List.length_cons, ih, List.length_cons]

theorem map_fst_deal {α : Type} (chance : Chance) (items : List α) :
    (chance.deal items).map Prod.fst = items := by
  induction items generalizing chance with
  | nil => rfl
  | cons a rest ih => rw [deal, List.map_cons, ih]

/-- What stands before and behind an item that has been dealt its branch. -/
theorem exists_of_deal_eq_append {α : Type} {chance own : Chance} {items : List α} {a : α}
    {first rest : List (α × Chance)} (h : chance.deal items = first ++ (a, own) :: rest) :
    ∃ before behind, items = before ++ a :: behind ∧ first = chance.deal before ∧
      own = chance.branch before.length := by
  have hitems : items = first.map Prod.fst ++ a :: rest.map Prod.fst := by
    rw [← map_fst_deal chance items, h, List.map_append, List.map_cons]
  refine ⟨first.map Prod.fst, rest.map Prod.fst, hitems, ?_⟩
  rw [hitems, deal_append, deal] at h
  obtain ⟨hfirst, hrest⟩ := List.append_inj h (by rw [length_deal, List.length_map])
  obtain ⟨hown, -⟩ := List.cons.inj hrest
  exact ⟨hfirst.symm, congrArg Prod.snd hown.symm⟩

/-- Items can be dealt any branches. -/
theorem exists_deal {α : Type} (items : List (α × Chance)) :
    ∃ chance : Chance, chance.deal (items.map Prod.fst) = items := by
  induction items with
  | nil => exact ⟨still, rfl⟩
  | cons item rest ih =>
    obtain ⟨a, own⟩ := item
    obtain ⟨others, hothers⟩ := ih
    let chance := ofBranches others.number fun
      | 0 => own
      | n + 1 => others.branch n
    have hlater : chance.later 1 = others := by
      funext path
      cases path with
      | nil => rfl
      | cons i path => rw [later, Nat.add_comm]; rfl
    refine ⟨chance, ?_⟩
    rw [List.map_cons, deal, hlater, hothers]
    rfl

theorem length_shuffle {α : Type} (chance : Chance) (items : List α) :
    (chance.shuffle items).length = items.length := by
  induction items generalizing chance with
  | nil => rfl
  | cons a rest ih =>
    have hle : chance.number % (rest.length + 1) ≤ (shuffle (chance.branch 0) rest).length := by
      rw [ih]
      exact Nat.le_of_lt_succ (Nat.mod_lt _ (Nat.succ_pos _))
    rw [shuffle, List.length_insertIdx_of_le_length hle, ih, List.length_cons]

theorem shuffle_perm {α : Type} (chance : Chance) (items : List α) :
    (chance.shuffle items).Perm items := by
  induction items generalizing chance with
  | nil => exact .nil
  | cons a rest ih =>
    have hle : chance.number % (rest.length + 1) ≤ (shuffle (chance.branch 0) rest).length := by
      rw [length_shuffle]
      exact Nat.le_of_lt_succ (Nat.mod_lt _ (Nat.succ_pos _))
    exact (List.perm_insertIdx a _ hle).trans ((ih _).cons a)

theorem insertIdx_length_append {α : Type} (before behind : List α) (a : α) :
    (before ++ behind).insertIdx before.length a = before ++ a :: behind := by
  induction before with
  | nil => rfl
  | cons b before ih =>
    rw [List.cons_append, List.length_cons, List.insertIdx_succ_cons, ih, List.cons_append]

/-- Any order can be the one that some items come in. -/
theorem exists_shuffle {α : Type} {items shuffled : List α} (h : shuffled.Perm items) :
    ∃ chance : Chance, chance.shuffle items = shuffled := by
  induction items generalizing shuffled with
  | nil => exact ⟨still, h.eq_nil.symm⟩
  | cons a rest ih =>
    obtain ⟨before, behind, rfl⟩ := List.append_of_mem (h.mem_iff.2 List.mem_cons_self)
    have hothers : (before ++ behind).Perm rest :=
      (List.perm_middle.symm.trans h).cons_inv
    obtain ⟨others, hshuffle⟩ := ih hothers
    refine ⟨ofBranches before.length fun _ => others, ?_⟩
    have hplace : before.length % (rest.length + 1) = before.length := by
      refine Nat.mod_eq_of_lt ?_
      rw [← hothers.length_eq, List.length_append]
      omega
    have hnumber : (ofBranches before.length fun _ => others).number = before.length := rfl
    have hbranch : (ofBranches before.length fun _ => others).branch 0 = others := rfl
    rw [shuffle, hnumber, hbranch, hplace, hshuffle, insertIdx_length_append]
end Chance

end Scaffold
