import Mathlib.Data.List.Basic
import Scaffold.Path

/-!
# The parts of joined and rebuilt paths

What the named parts of a path add to another path, and how a path is recovered from its parts. The
key notion is `IsName`, the texts that stand for themselves as a part. Main facts:

* `parts_below` : a path placed below a directory has the parts of the directory, then its own
  names and nothing else;
* `same_below_iff` : two paths placed below a directory are the same path if their names are;
* `same_join_below_iff` : when this is the path that continues the directory;
* `parts_ofParts` : the text of a path made from the first parts of a path has exactly these parts.
-/

namespace Scaffold.Path

/-! ## Pieces between slashes -/

/-- The pieces of a text in terms of those behind its first character. -/
theorem pieces_cons (c x : Char) (cs : List Char) :
    Text.pieces [c] (x :: cs) =
      if x = c then [] :: Text.pieces [c] cs else Text.extendHead x (Text.pieces [c] cs) := by
  by_cases hx : x = c
  · subst hx
    simp [Text.pieces, Text.piecesFrom, Text.startsWith, Text.stripStart?]
  · simp [Text.pieces, Text.piecesFrom, Text.startsWith, Text.stripStart?, hx, Ne.symm hx]

/-- The pieces between occurrences of a character do not contain it. -/
theorem not_mem_of_mem_pieces (c : Char) (cs : List Char) :
    ∀ piece ∈ Text.pieces [c] cs, c ∉ piece := by
  induction cs with
  | nil => simp [Text.pieces, Text.piecesFrom]
  | cons x cs ih =>
    intro piece hpiece
    rw [pieces_cons] at hpiece
    by_cases hx : x = c
    · rw [if_pos hx] at hpiece
      rcases List.mem_cons.1 hpiece with rfl | h
      · exact List.not_mem_nil
      · exact ih piece h
    · rw [if_neg hx] at hpiece
      cases hp : Text.pieces [c] cs with
      | nil => exact absurd hp (Text.pieces_ne_nil _ _)
      | cons p ps =>
        rw [hp] at hpiece ih
        rcases List.mem_cons.1 hpiece with rfl | h
        · simp only [List.mem_cons, not_or]
          exact ⟨Ne.symm hx, ih p (by simp)⟩
        · exact ih piece (by simp [h])

/-- A text without the character is its own only piece. -/
theorem pieces_eq_singleton (c : Char) {cs : List Char} (h : c ∉ cs) :
    Text.pieces [c] cs = [cs] := by
  induction cs with
  | nil => simp [Text.pieces, Text.piecesFrom]
  | cons x cs ih =>
    simp only [List.mem_cons, not_or] at h
    rw [pieces_cons, if_neg (Ne.symm h.1), ih h.2]
    rfl

/-- There is one piece more than the character occurs. -/
theorem length_pieces (c : Char) (cs : List Char) :
    (Text.pieces [c] cs).length = cs.count c + 1 := by
  induction cs with
  | nil => simp [Text.pieces, Text.piecesFrom]
  | cons x cs ih =>
    rw [pieces_cons]
    by_cases hx : x = c
    · rw [if_pos hx, hx, List.length_cons, ih, List.count_cons_self]
    · rw [if_neg hx, List.count_cons_of_ne (by simpa using hx), ← ih]
      cases hp : Text.pieces [c] cs with
      | nil => exact absurd hp (Text.pieces_ne_nil _ _)
      | cons p ps => rfl

/-- A text in which the character occurs once has the pieces before and behind it. -/
theorem pieces_of_count_eq_one (c : Char) {cs : List Char} (h : cs.count c = 1) :
    Text.pieces [c] cs = [cs.takeWhile (· ≠ c), (cs.dropWhile (· ≠ c)).tail] := by
  induction cs with
  | nil => simp at h
  | cons x cs ih =>
    rw [pieces_cons]
    by_cases hx : x = c
    · subst hx
      rw [List.count_cons_self, Nat.succ_inj, List.count_eq_zero] at h
      rw [if_pos rfl, pieces_eq_singleton x h]
      simp
    · rw [List.count_cons_of_ne (by simpa using hx)] at h
      rw [if_neg hx, ih h]
      simp [Text.extendHead, hx]

/-- The last piece of a text that ends in another character is not empty. -/
theorem getLast?_pieces_ne_nil {c x : Char} (cs : List Char) (hx : x ≠ c) :
    (Text.pieces [c] (cs ++ [x])).getLast? ≠ some [] := by
  induction cs with
  | nil =>
    rw [List.nil_append, pieces_eq_singleton c (by simpa using Ne.symm hx)]
    simp
  | cons y cs ih =>
    rw [List.cons_append, pieces_cons]
    cases hp : Text.pieces [c] (cs ++ [x]) with
    | nil => exact absurd hp (Text.pieces_ne_nil _ _)
    | cons p ps =>
      rw [hp] at ih
      split
      · rw [List.getLast?_cons_cons]
        exact ih
      · cases ps with
        | nil => simp [Text.extendHead]
        | cons q qs =>
          rw [Text.extendHead, List.getLast?_cons_cons]
          rwa [List.getLast?_cons_cons] at ih

/-- There is always a piece. -/
theorem segments_ne_nil (path : String) : segments path ≠ [] := by
  simpa [segments, Text.split] using Text.pieces_ne_nil _ _

/-- No piece of a path contains a slash. -/
theorem slash_not_mem_of_mem_segments {path segment : String} (h : segment ∈ segments path) :
    '/' ∉ segment.toList := by
  obtain ⟨piece, hpiece, rfl⟩ := List.mem_map.1 h
  rw [String.toList_ofList]
  exact not_mem_of_mem_pieces '/' path.toList piece hpiece

/-- A text without slashes is one piece. -/
theorem segments_of_no_slash {s : String} (h : '/' ∉ s.toList) : segments s = [s] := by
  have hsep : ("/" : String).toList = ['/'] := rfl
  rw [segments, Text.split, hsep, pieces_eq_singleton '/' h]
  simp

/-- A path whose last piece is empty is empty or ends in a slash. -/
theorem getLast?_eq_slash {path : String} (h : (segments path).getLast? = some "")
    (hne : path ≠ "") : path.toList.getLast? = some '/' := by
  have hsep : ("/" : String).toList = ['/'] := rfl
  have hne' : path.toList ≠ [] := fun he => hne (String.toList_eq_nil_iff.1 he)
  obtain ⟨cs, x, hcs⟩ : ∃ cs x, path.toList = cs ++ [x] :=
    ⟨_, _, (List.dropLast_concat_getLast hne').symm⟩
  by_cases hx : x = '/'
  · rw [hcs, hx]
    simp
  · rw [segments, Text.split, hsep, hcs, List.getLast?_map] at h
    obtain ⟨piece, hpiece, hempty⟩ := Option.map_eq_some_iff.1 h
    have hnil : piece = [] := by simpa using congrArg String.toList hempty
    rw [hnil] at hpiece
    exact absurd hpiece (getLast?_pieces_ne_nil cs hx)

/-! ## Names -/

/-- A text that stands for itself as a part of a path. -/
structure IsName (s : String) : Prop where
  ne_empty : s ≠ ""
  ne_here : s ≠ "."
  ne_up : s ≠ ".."
  no_slash : '/' ∉ s.toList

/-- A name is the part that it stands for. -/
theorem IsName.partOf {s : String} (h : IsName s) : partOf s = some (.name s) := by
  simp [Path.partOf, h.ne_empty, h.ne_here, h.ne_up]

/-- A name is its own only piece. -/
theorem IsName.segments {s : String} (h : IsName s) : segments s = [s] :=
  segments_of_no_slash h.no_slash

/-- A name does not start at the root. -/
theorem IsName.isAbsolute {s : String} (h : IsName s) : isAbsolute s = false := by
  cases hs : s.toList with
  | nil => simp [Path.isAbsolute, hs]
  | cons c cs =>
    have hc : c ≠ '/' := by
      rintro rfl
      exact h.no_slash (by simp [hs])
    simp [Path.isAbsolute, hs, hc]

/-- A name is its own only part. -/
theorem IsName.parts {s : String} (h : IsName s) : parts s = [.name s] := by
  have hhead : (Path.segments s).head? ≠ some "." := by simp [h.segments, h.ne_here]
  rw [Path.parts, opening, if_neg (by simp [h.isAbsolute]), if_neg hhead, h.segments]
  simp [h.partOf]

/-- What a piece stands for as a name is the piece itself. -/
theorem nameOf_eq_some_iff {segment s : String} :
    nameOf segment = some s ↔ segment = s ∧ s ≠ "" ∧ s ≠ "." ∧ s ≠ ".." := by
  unfold nameOf Path.partOf
  by_cases h1 : segment = "" ∨ segment = "."
  · rw [if_pos h1]
    constructor
    · intro h
      cases h
    · rintro ⟨rfl, h2, h3, -⟩
      exact absurd h1 (by simp [h2, h3])
  · rw [if_neg h1]
    by_cases h2 : segment = ".."
    · rw [if_pos h2]
      constructor
      · intro h
        cases h
      · rintro ⟨rfl, -, -, h3⟩
        exact absurd h2 h3
    · rw [if_neg h2]
      simp only [Option.some.injEq]
      constructor
      · rintro rfl
        exact ⟨rfl, fun h => h1 (.inl h), fun h => h1 (.inr h), h2⟩
      · exact fun h => h.1

/-- The named parts of a path are names. -/
theorem isName_of_mem_names {path s : String} (h : s ∈ names path) : IsName s := by
  rw [names_eq_filterMap] at h
  obtain ⟨segment, hsegment, hs⟩ := List.mem_filterMap.1 h
  obtain ⟨rfl, h1, h2, h3⟩ := nameOf_eq_some_iff.1 hs
  exact ⟨h1, h2, h3, slash_not_mem_of_mem_segments hsegment⟩

/-! ## Joining names to a path -/

/-- Whether a path is absolute is decided by its first character. -/
theorem isAbsolute_append {x : String} (y : String) (h : x ≠ "") :
    isAbsolute (x ++ y) = isAbsolute x := by
  cases hx : x.toList with
  | nil => exact absurd (String.toList_eq_nil_iff.1 hx) h
  | cons c cs => simp [isAbsolute, hx]

/-- The part before all pieces is not changed by what follows a slash. -/
theorem opening_append_slash {x : String} (y : String) (h : x ≠ "") :
    opening (x ++ "/" ++ y) = opening x := by
  have hhead : (segments (x ++ "/" ++ y)).head? = (segments x).head? := by
    rw [segments_append_slash]
    cases hs : segments x with
    | nil => exact absurd hs (segments_ne_nil x)
    | cons s ss => rfl
  have habs : isAbsolute (x ++ "/" ++ y) = isAbsolute x := by
    rw [String.append_assoc, isAbsolute_append _ h]
  simp only [opening, hhead, habs]

/-- The parts of a path that goes on behind a slash. -/
theorem parts_append_slash {x : String} (y : String) (h : x ≠ "") :
    parts (x ++ "/" ++ y) = parts x ++ (segments y).filterMap partOf := by
  rw [parts, opening_append_slash y h, segments_append_slash, List.filterMap_append,
    ← List.append_assoc, parts]

/-- The parts of a path that begins with a slash, which is both the root and a separator. -/
theorem parts_slash_append (y : String) :
    parts ("/" ++ y) = .root :: (segments y).filterMap partOf := by
  have hsegments : segments ("/" ++ y) = "" :: segments y := by
    have := segments_append_slash "" y
    simpa [segments_of_no_slash (s := "") (by simp)] using this
  have habs : isAbsolute ("/" ++ y) = true := by simp [isAbsolute]
  rw [parts, opening, if_pos habs, hsegments]
  rfl

/-- A slash at the end of a path adds no part. -/
theorem parts_slash {x : String} (h : x ≠ "") : parts (x ++ "/") = parts x := by
  have := parts_append_slash "" h
  simpa [segments_of_no_slash (s := "") (by simp), partOf] using this

/-- A path that ends in a slash, without it. -/
theorem exists_eq_append_slash {x : String} (h : x.toList.getLast? = some '/') :
    ∃ y, x = y ++ "/" := by
  obtain ⟨cs, hcs⟩ := List.getLast?_eq_some_iff.1 h
  refine ⟨String.ofList cs, ?_⟩
  rw [← String.toList_inj, hcs]
  simp

/-- Continuing a path by a relative one adds the parts of its pieces. -/
theorem parts_join_of_relative {base path : String} (hbase : base ≠ "")
    (hpath : isAbsolute path = false) :
    parts (join base path) = parts base ++ (segments path).filterMap partOf := by
  rw [join, if_neg (by simp [hpath]), if_neg hbase]
  split
  · rename_i hlast
    obtain ⟨y, rfl⟩ := exists_eq_append_slash hlast
    by_cases hy : y = ""
    · subst hy
      rw [String.empty_append, parts_slash_append, show parts "/" = [.root] from by decide]
      rfl
    · rw [parts_append_slash _ hy, parts_slash hy]
  · rw [parts_append_slash _ hbase]

/-- Joining a name adds it as the last part. -/
theorem parts_join {base s : String} (hbase : base ≠ "") (hs : IsName s) :
    parts (join base s) = parts base ++ [.name s] := by
  rw [parts_join_of_relative hbase hs.isAbsolute, hs.segments]
  simp [hs.partOf]

/-- Joining gives the empty path from empty paths only. -/
theorem join_eq_empty_iff {base path : String} : join base path = "" ↔ base = "" ∧ path = "" := by
  unfold join
  by_cases hpath : isAbsolute path
  · rw [if_pos hpath]
    have hne : path ≠ "" := by
      rintro rfl
      exact absurd hpath (by decide)
    simp [hne]
  · rw [if_neg hpath]
    by_cases hbase : base = ""
    · simp [hbase]
    · rw [if_neg hbase]
      split <;> simp [String.append_eq_empty_iff, hbase]

/-- Joining a name never gives the empty path. -/
theorem join_ne_empty {base s : String} (hs : IsName s) : join base s ≠ "" :=
  fun h => hs.ne_empty (join_eq_empty_iff.1 h).2

/-- Joining names one after the other adds them in order. -/
theorem parts_foldl_join {base : String} (hbase : base ≠ "") {ns : List String}
    (hns : ∀ n ∈ ns, IsName n) : parts (ns.foldl join base) = parts base ++ ns.map .name := by
  induction ns generalizing base with
  | nil => simp
  | cons n ns ih =>
    have hn : IsName n := hns n (by simp)
    rw [List.foldl_cons, ih (join_ne_empty hn) (fun m hm => hns m (by simp [hm])),
      parts_join hbase hn]
    simp

/-- **A path placed below a directory** has the parts of the directory and then its own names. -/
theorem parts_below {base : String} (hbase : base ≠ "") (path : String) :
    parts (below base path) = parts base ++ (names path).map .name :=
  parts_foldl_join hbase fun _ hn => isName_of_mem_names hn

/-- Placed below the empty path, a path is left with its own names. -/
theorem parts_below_empty (path : String) : parts (below "" path) = (names path).map .name := by
  rw [below]
  cases hnames : names path with
  | nil => decide
  | cons n ns =>
    have hn : ∀ m ∈ n :: ns, IsName m := fun m hm => isName_of_mem_names (hnames ▸ hm)
    have hfirst : IsName n := hn n List.mem_cons_self
    have hjoin : join "" n = n := by
      rw [join, if_neg (by simp [hfirst.isAbsolute]), if_pos rfl]
    rw [List.foldl_cons, hjoin, parts_foldl_join hfirst.ne_empty fun m hm =>
      hn m (List.mem_cons_of_mem _ hm), hfirst.parts]
    rfl

/-- Paths placed below the same directory are the same path if they have the same names. -/
theorem same_below_iff (base x y : String) :
    same (below base x) (below base y) = true ↔ names x = names y := by
  have hmap : (names x).map Part.name = (names y).map .name ↔ names x = names y :=
    List.map_inj_right fun _ _ hab => Part.name.inj hab
  rw [same, beq_iff_eq]
  by_cases hbase : base = ""
  · rw [hbase, parts_below_empty, parts_below_empty, hmap]
  · rw [parts_below hbase, parts_below hbase, List.append_cancel_left_eq, hmap]

/-- Paths placed below the same directory are the same text if they have the same names. -/
theorem below_eq_below_iff {base : String} (hbase : base ≠ "") (x y : String) :
    below base x = below base y ↔ names x = names y := by
  constructor
  · intro h
    have hparts := congrArg parts h
    rw [parts_below hbase, parts_below hbase] at hparts
    have hnames := List.append_cancel_left hparts
    exact (List.map_inj_right fun _ _ hab => Part.name.inj hab).1 hnames
  · intro h
    rw [below, below, h]

/-- The pieces of a path stand for its names only, unless one of them leads upwards. -/
theorem filterMap_partOf_eq_iff (path : String) :
    (segments path).filterMap partOf = (names path).map .name ↔ ".." ∉ segments path := by
  rw [names_eq_filterMap]
  constructor
  · intro h hup
    have hmem : Part.up ∈ (segments path).filterMap partOf :=
      List.mem_filterMap.2 ⟨"..", hup, by decide⟩
    rw [h] at hmem
    obtain ⟨s, -, hs⟩ := List.mem_map.1 hmem
    cases hs
  · intro hup
    rw [List.map_filterMap]
    refine List.filterMap_congr fun s hs => ?_
    have hne : s ≠ ".." := fun he => hup (he ▸ hs)
    unfold nameOf
    by_cases hnone : s = "" ∨ s = "."
    · rw [partOf, if_pos hnone]
      rfl
    · rw [partOf, if_neg hnone, if_neg hne]
      rfl

/-- **A path that continues a directory is the path placed below it** unless it leads upwards or is
absolute; an absolute one is so only if the directory is what it begins with. -/
theorem same_join_below_iff {base : String} (hbase : base ≠ "") (path : String) :
    same (join base path) (below base path) = true ↔
      if isAbsolute path then parts path = parts base ++ (names path).map .name
      else ".." ∉ segments path := by
  rw [same, beq_iff_eq, parts_below hbase]
  cases hpath : isAbsolute path with
  | true => rw [if_pos rfl, join, if_pos hpath]
  | false =>
    rw [if_neg Bool.false_ne_true, parts_join_of_relative hbase hpath, List.append_cancel_left_eq,
      filterMap_partOf_eq_iff]

/-! ## Rebuilding a path from its parts -/

/-- A part that can stand anywhere in a path. -/
def IsInner : Part → Prop
  | .up => True
  | .name s => IsName s
  | .root | .here => False

/-- What the parts of a path look like: the root and the place itself can only come first. -/
structure AreParts (ps : List Part) : Prop where
  head : ∀ s, ps.head? = some (.name s) → IsName s
  tail : ∀ p ∈ ps.tail, IsInner p

/-- A piece of a path stands for a part that can be anywhere. -/
theorem isInner_of_partOf {segment : String} {p : Part} (hslash : '/' ∉ segment.toList)
    (h : partOf segment = some p) : IsInner p := by
  unfold partOf at h
  split at h
  · cases h
  · rename_i h1
    split at h
    · cases h
      trivial
    · rename_i h2
      cases h
      exact ⟨fun he => h1 (.inl he), fun he => h1 (.inr he), h2, hslash⟩

/-- The parts that the pieces of a path stand for can be anywhere. -/
theorem isInner_of_mem_filterMap {path : String} {p : Part}
    (h : p ∈ (segments path).filterMap partOf) : IsInner p := by
  obtain ⟨segment, hsegment, hp⟩ := List.mem_filterMap.1 h
  exact isInner_of_partOf (slash_not_mem_of_mem_segments hsegment) hp

/-- The parts of a path have the shape of parts. -/
theorem areParts_parts (path : String) : AreParts (parts path) := by
  have hinner : ∀ p ∈ (segments path).filterMap partOf, IsInner p :=
    fun p hp => isInner_of_mem_filterMap hp
  have hopening : opening path = [.root] ∨ opening path = [.here] ∨ opening path = [] := by
    unfold opening
    split
    · exact .inl rfl
    · split
      · exact .inr (.inl rfl)
      · exact .inr (.inr rfl)
  rw [parts]
  rcases hopening with h | h | h <;> rw [h]
  · exact ⟨fun s hs => by simp at hs, hinner⟩
  · exact ⟨fun s hs => by simp at hs, hinner⟩
  · rw [List.nil_append]
    refine ⟨fun s hs => ?_, fun p hp => hinner p (List.mem_of_mem_tail hp)⟩
    exact hinner (.name s) (List.mem_of_mem_head? hs)

/-- The first parts of a path have the shape of parts. -/
theorem AreParts.take {ps : List Part} (h : AreParts ps) (n : Nat) : AreParts (ps.take n) := by
  refine ⟨fun s hs => ?_, fun p hp => ?_⟩
  · rw [List.head?_take] at hs
    split at hs
    · cases hs
    · exact h.head s hs
  · cases ps with
    | nil => simp at hp
    | cons q qs =>
      cases n with
      | zero => simp at hp
      | succ n => exact h.tail p (List.mem_of_mem_take hp)

/-- The text of a part that can stand anywhere. -/
def innerText : Part → String
  | .name s => s
  | _ => ".."

/-- The text of a part that can stand anywhere has this part only. -/
theorem parts_innerText {p : Part} (h : IsInner p) : parts (innerText p) = [p] := by
  cases p with
  | root | here => exact absurd h id
  | up => decide
  | name s =>
    have hs : IsName s := h
    exact hs.parts

/-- The text of a part that can stand anywhere is not empty. -/
theorem innerText_ne_empty {p : Part} (h : IsInner p) : innerText p ≠ "" := by
  cases p with
  | root | here => exact absurd h id
  | up => decide
  | name s => exact IsName.ne_empty h

/-- The text of several parts, the first of which can stand anywhere. -/
theorem ofParts_cons {p : Part} (h : IsInner p) {ps : List Part} (hps : ps ≠ []) :
    ofParts (p :: ps) = innerText p ++ "/" ++ ofParts ps := by
  obtain ⟨q, qs, rfl⟩ := List.exists_cons_of_ne_nil hps
  cases p with
  | root | here => exact absurd h id
  | up => simp only [ofParts, innerText]; rfl
  | name s => rfl

/-- The text made from parts that can stand anywhere has these parts. -/
theorem parts_ofParts_of_inner {ps : List Part} (h : ∀ p ∈ ps, IsInner p) :
    parts (ofParts ps) = ps ∧ (segments (ofParts ps)).filterMap partOf = ps := by
  induction ps with
  | nil => decide
  | cons p ps ih =>
    have hp : IsInner p := h p (by simp)
    have hps := ih fun q hq => h q (by simp [hq])
    have hsingle : (segments (innerText p)).filterMap partOf = [p] := by
      cases p with
      | root | here => exact absurd hp id
      | up => decide
      | name s =>
        have hs : IsName s := hp
        simp [innerText, hs.segments, hs.partOf]
    by_cases hnil : ps = []
    · subst hnil
      have htext : ofParts [p] = innerText p := by
        cases p with
        | root | here => exact absurd hp id
        | up | name s => rfl
      rw [htext]
      exact ⟨parts_innerText hp, hsingle⟩
    · rw [ofParts_cons hp hnil, parts_append_slash _ (innerText_ne_empty hp), parts_innerText hp,
        segments_append_slash, List.filterMap_append, hsingle, hps.2]
      exact ⟨rfl, rfl⟩

/-- **The text made from the parts of a path has these parts.** -/
theorem parts_ofParts {ps : List Part} (h : AreParts ps) : parts (ofParts ps) = ps := by
  cases ps with
  | nil => decide
  | cons p ps =>
    have hps : parts (ofParts ps) = ps ∧ (segments (ofParts ps)).filterMap partOf = ps :=
      parts_ofParts_of_inner h.tail
    cases p with
    | root =>
      have htext : ofParts (.root :: ps) = "/" ++ ofParts ps := by cases ps <;> rfl
      rw [htext, parts_slash_append, hps.2]
    | here =>
      by_cases hnil : ps = []
      · subst hnil
        decide
      · have htext : ofParts (.here :: ps) = "." ++ "/" ++ ofParts ps := by
          obtain ⟨q, qs, rfl⟩ := List.exists_cons_of_ne_nil hnil
          rfl
        rw [htext, parts_append_slash _ (by decide), hps.2,
          show parts "." = [.here] from by decide]
        rfl
    | up =>
      have hinner : ∀ q ∈ Part.up :: ps, IsInner q := List.forall_mem_cons.2 ⟨trivial, h.tail⟩
      exact (parts_ofParts_of_inner hinner).1
    | name s =>
      have hinner : ∀ q ∈ Part.name s :: ps, IsInner q :=
        List.forall_mem_cons.2 ⟨h.head s rfl, h.tail⟩
      exact (parts_ofParts_of_inner hinner).1

end Scaffold.Path
