import Scaffold.Proofs.CommandLine.Accepted
import Scaffold.Proofs.CommandLine.Reported

/-!
# Where the paths of a request come from

A path of a request comes from the arguments, from the variable of the environment that stands in
for it, or from the settings, in this order. An empty one does not count, with one exception: a path
of the settings is looked at before the home directory is put in. The key notions are `sources`,
`Settings.Finds`, which file the settings are read from, and `Settings.Resolves`, what a path of the
settings stands for. Main facts:

* `Settings.finds_find` : the first of two files gives the settings, also if it cannot be read;
* `path_eq_firstNonempty_iff`, `path_eq_empty_iff_endsEmpty` : which path of an order counts, and
  when an empty one does;
* `requestOf_prefers` : the paths and the module of a request by their sources;
* `requestOf_keeps_empty` : a request can have a path that is empty.
-/

namespace Scaffold

/-! ## Finding settings -/

namespace Settings

variable {around : Surroundings}

/-- The settings that a file gives; one that cannot be read gives none. -/
def readOr (content : ByteArray) : Settings := (ofBytes content).toOption.getD empty

/-- Which settings are found: those of the file in the working directory if it is a file, or else
those of the file below the home directory. -/
inductive Finds (around : Surroundings) : Settings → Prop
  | here {content : ByteArray} (file : around.disk.entryAt? ".qtcli.toml" = some (.file content)) :
      Finds around (readOr content)
  | home {home : String} {content : ByteArray}
      (noneHere : ∀ content, around.disk.entryAt? ".qtcli.toml" ≠ some (.file content))
      (given : around.environment.lookup "HOME" = some home)
      (file : around.disk.entryAt? (Path.join (Path.join home ".config") "qtcli.toml") =
        some (.file content)) :
      Finds around (readOr content)
  | nowhere
      (noneHere : ∀ content, around.disk.entryAt? ".qtcli.toml" ≠ some (.file content))
      (noneAtHome : ∀ home content, around.environment.lookup "HOME" = some home →
        around.disk.entryAt? (Path.join (Path.join home ".config") "qtcli.toml") ≠
          some (.file content)) :
      Finds around empty

theorem contentAt?_eq_some_iff {path : String} {content : ByteArray} :
    contentAt? around path = some content ↔
      around.disk.entryAt? path = some (.file content) := by
  unfold contentAt?
  cases around.disk.entryAt? path with
  | none => simp
  | some entry => cases entry <;> simp

/-- The settings of a file are taken if they can be read. -/
theorem find_of_file {content : ByteArray} (h : file? around = some content) :
    (find around).1 = readOr content := by
  rw [find, h, readOr]
  dsimp only
  cases ofBytes content <;> rfl

/-- **What is found** is what the first of the two files gives that is there. -/
theorem finds_find (around : Surroundings) : Finds around (find around).1 := by
  cases hhere : contentAt? around localPath with
  | some content =>
    rw [find_of_file (file?_of_local hhere)]
    exact .here (contentAt?_eq_some_iff.1 hhere)
  | none =>
    -- there is nothing in the working directory, so it is the file below the home directory
    have hnone : ∀ content, around.disk.entryAt? ".qtcli.toml" ≠ some (.file content) := by
      intro content hfile
      rw [localPath, contentAt?_eq_some_iff.2 hfile] at hhere
      cases hhere
    have hfile : file? around =
        (home? around).bind fun home => contentAt? around (pathBelow home) := by
      rw [file?, hhere]
    cases hfound : file? around with
    | some content =>
      rw [find_of_file hfound]
      rw [hfile, Option.bind_eq_some_iff] at hfound
      obtain ⟨home, hhome, hcontent⟩ := hfound
      exact .home hnone hhome (contentAt?_eq_some_iff.1 hcontent)
    | none =>
      rw [find, hfound]
      rw [hfile, Option.bind_eq_none_iff] at hfound
      refine .nowhere hnone fun home content hhome hcontent => ?_
      have hnothing := hfound home hhome
      rw [pathBelow, contentAt?_eq_some_iff.2 hcontent] at hnothing
      cases hnothing

/-! ## Home directories -/

/-- What a path of the settings stands for: a tilde at the beginning is the home directory, if there
is one. -/
inductive Resolves (around : Surroundings) : String → String → Prop
  | home {home rest : String} (given : around.environment.lookup "HOME" = some home) :
      Resolves around ("~/" ++ rest) (Path.join home rest)
  | asIs {path : String}
      (plain : around.environment.lookup "HOME" = none ∨ ∀ rest, path ≠ "~/" ++ rest) :
      Resolves around path path

theorem resolves_expandHome (around : Surroundings) (path : String) :
    Resolves around path (expandHome around path) := by
  unfold expandHome
  cases hrest : Text.stripStart? ['~', '/'] path.toList with
  | none =>
    refine .asIs (.inr ?_)
    rintro rest rfl
    rw [String.toList_append, show "~/".toList = ['~', '/'] from rfl, Text.stripStart?_append]
      at hrest
    cases hrest
  | some rest =>
    cases hhome : home? around with
    | none => exact .asIs (.inl hhome)
    | some home =>
      have hpath : path = "~/" ++ String.ofList rest := by
        rw [← String.toList_inj, Text.eq_append_of_stripStart? hrest, String.toList_append,
          String.toList_ofList, String.toList_ofList]
      rw [hpath]
      exact .home hhome

end Settings

namespace CommandLine

open Generation (given_of_ne smallAround)

/-! ## Paths of a request -/

variable {around : Surroundings} {arguments : List String} {order : Order} {given : Given}
  {parameter : Parameter} {setting : Option String}

/-- The path that settings have for a parameter. -/
def settingFor (settings : Settings) : Parameter → Option String
  | .outputDirectory => settings.outputDirectory
  | .licenseFile => settings.licenseFile
  | .templateDirectory => settings.templateDirectory
  | _ => none

/-- The path that a request has for a parameter. -/
def pathFor (request : Request) : Parameter → Option String
  | .outputDirectory => request.outputDirectory
  | .licenseFile => request.licenseFile
  | .templateDirectory => request.templateDirectory
  | _ => none

theorem pathFor_requestOf (h : parameter.isPath = true) :
    pathFor (requestOf around order) parameter =
      order.path around parameter (settingFor (Settings.find around).1 parameter) := by
  cases parameter <;> first | rfl | cases h

/-- Where a path can come from: the arguments, the environment and the settings, in which a tilde at
the beginning is resolved. -/
def sources (around : Surroundings) (given : Given) (parameter : Parameter)
    (setting : Option String) : List (Option String) :=
  [given.value? parameter, parameter.inEnvironment? around.environment,
    setting.map (Settings.expandHome around)]

/-- The first path that is there and not empty. -/
def firstNonempty (paths : List (Option String)) : Option String := paths.findSome? Request.given

theorem firstNonempty_ne_empty (paths : List (Option String)) : firstNonempty paths ≠ some "" := by
  intro h
  obtain ⟨path, -, hpath⟩ := List.exists_of_findSome?_eq_some h
  exact Generation.ne_empty_of_given hpath rfl

theorem firstNonempty_cons_none (paths : List (Option String)) :
    firstNonempty (none :: paths) = firstNonempty paths :=
  rfl

theorem firstNonempty_cons_of_ne {path : String} (h : path ≠ "") (paths : List (Option String)) :
    firstNonempty (some path :: paths) = some path := by
  rw [firstNonempty, List.findSome?_cons, given_of_ne h]

/-- A path that ends empty: arguments and environment give none, the settings give the home
directory, and that is empty. -/
structure EndsEmpty (around : Surroundings) (given : Given) (parameter : Parameter)
    (setting : Option String) : Prop where
  noValue : given.value? parameter = none
  noVariable : parameter.inEnvironment? around.environment = none
  setting : setting = some "~/"
  home : around.environment.lookup "HOME" = some ""

/-- What the arguments give, or else the environment, comes before the settings. -/
theorem firstNonempty_of_or {value : String}
    (h : (given.value? parameter).or (parameter.inEnvironment? around.environment) = some value)
    (hne : value ≠ "") :
    firstNonempty (sources around given parameter setting) = some value := by
  rw [sources]
  cases hgiven : given.value? parameter with
  | some path =>
    rw [hgiven, Option.some_or] at h
    cases h
    exact firstNonempty_cons_of_ne hne _
  | none =>
    rw [hgiven, Option.none_or] at h
    rw [h, firstNonempty_cons_none, firstNonempty_cons_of_ne hne]

section Sources

variable (hnonempty : order.given.PathsNonempty) (hpath : parameter.isPath = true)
  (hvalue : order.given.value? parameter =
    (given.value? parameter).or (parameter.inEnvironment? around.environment))
include hnonempty hpath hvalue

/-- The paths of an order are those of its sources unless they are empty. -/
theorem path_eq_firstNonempty (hne : order.path around parameter setting ≠ some "") :
    order.path around parameter setting =
      firstNonempty (sources around given parameter setting) := by
  cases hgiven : order.given.value? parameter with
  | some value =>
    -- the path of an order is not empty, so nothing behind it counts
    have hvalue' : value ≠ "" := hnonempty.ne_empty hpath hgiven
    rw [Order.path_of_value hgiven hvalue', firstNonempty_of_or (hvalue ▸ hgiven) hvalue']
  | none =>
    rw [Order.path_of_settings hgiven] at hne ⊢
    obtain ⟨hnone, henvironment⟩ := Option.or_eq_none_iff.1 (hvalue ▸ hgiven)
    rw [sources, hnone, henvironment, firstNonempty_cons_none, firstNonempty_cons_none]
    cases setting with
    | none => rfl
    | some path =>
      by_cases hempty : path = ""
      · subst hempty
        rfl
      · -- a path that is not empty can still become empty, which is excluded
        have hsetting : Request.given (some path) = some path := given_of_ne hempty
        rw [hsetting, Option.map_some, ne_eq, Option.some_inj] at hne
        rw [hsetting, Option.map_some, firstNonempty_cons_of_ne hne]

/-- **A path of a request is the first of its sources that is not empty**, unless it ends empty. -/
theorem path_eq_firstNonempty_iff :
    order.path around parameter setting = firstNonempty (sources around given parameter setting) ↔
      order.path around parameter setting ≠ some "" := by
  refine ⟨fun h => ?_, path_eq_firstNonempty hnonempty hpath hvalue⟩
  rw [h]
  exact firstNonempty_ne_empty _

/-- **A path of a request is empty** if and only if it ends empty. -/
theorem path_eq_empty_iff_endsEmpty :
    order.path around parameter setting = some "" ↔ EndsEmpty around given parameter setting := by
  have hgiven : Request.given (order.given.value? parameter) = none ↔
      given.value? parameter = none ∧ parameter.inEnvironment? around.environment = none := by
    rw [← Option.or_eq_none_iff, ← hvalue]
    cases horder : order.given.value? parameter with
    | none => exact iff_of_true rfl rfl
    | some value => simp [given_of_ne (hnonempty.ne_empty hpath horder)]
  rw [path_eq_empty_iff, hgiven]
  exact ⟨fun ⟨⟨hvalue, hvariable⟩, hsetting, hhome⟩ => ⟨hvalue, hvariable, hsetting, hhome⟩,
    fun h => ⟨⟨h.noValue, h.noVariable⟩, h.setting, h.home⟩⟩

end Sources

/-- **Where the paths of a request come from.** For every run whose arguments are accepted, each
path of its request is the first that is there and not empty of what the arguments give, what the
environment has for it, and what the settings have for it, if and only if it does not end empty; it
is empty if and only if it does. The settings are those of the first file that is there, and the
module is that of the arguments, or else of the settings. -/
theorem requestOf_prefers (horder : orderOf around arguments = .ok order) :
    ∃ rest given, findCommand false arguments = .ok rest ∧ Given.ofArguments rest = .ok given ∧
      Settings.Finds around (Settings.find around).1 ∧
      (∀ path, Settings.Resolves around path (Settings.expandHome around path)) ∧
      (∀ parameter, parameter.isPath = true →
        (pathFor (requestOf around order) parameter = firstNonempty
            (sources around given parameter (settingFor (Settings.find around).1 parameter)) ↔
          ¬ EndsEmpty around given parameter (settingFor (Settings.find around).1 parameter)) ∧
        (pathFor (requestOf around order) parameter = some "" ↔
          EndsEmpty around given parameter (settingFor (Settings.find around).1 parameter))) ∧
      (requestOf around order).moduleName =
        ((given.value? .moduleName).or (Settings.find around).1.moduleName).getD "PySide6" := by
  obtain ⟨rest, hrest, horder⟩ := exists_of_bind_eq_ok horder
  obtain ⟨given, hgiven, hnonempty, hvalue⟩ := value?_of_order horder
  refine ⟨rest, given, hrest, hgiven, Settings.finds_find around,
    Settings.resolves_expandHome around, fun parameter hpath => ?_, ?_⟩
  · rw [pathFor_requestOf hpath, path_eq_firstNonempty_iff hnonempty hpath (hvalue parameter),
      ← path_eq_empty_iff_endsEmpty hnonempty hpath (hvalue parameter)]
    exact ⟨Iff.rfl, Iff.rfl⟩
  · -- no variable stands in for the module
    have hmodule : order.given.value? .moduleName = given.value? .moduleName := by
      rw [hvalue]
      exact Option.or_none
    rw [← hmodule]
    rfl

/-- Surroundings with settings for the output directory, the license and the module, and a variable
for the license. -/
def settled : Surroundings where
  disk :=
    { (smallAround (manifestOf "b")).disk with
      entries := (["w", ".qtcli.toml"], .file
        "output-dir = \"~/out\"\nlicense-file = \"a\"\npython-module = \"PyQt6\"\n".toUTF8) ::
        (smallAround (manifestOf "b")).disk.entries }
  environment := [("HOME", "h"), ("QTCLI_LICENSE_FILE", "l")]
  seconds := 0
  chance := .still
  complaint := fun _ _ => []

/-- The order of arguments with a template directory in these surroundings. -/
def settledOrder : Order where
  category := .classes
  name := "N"
  given := ⟨[], [(.templateDirectory, "t"), (.licenseFile, "l")], some .classes, some "N"⟩

/-- A request with a path from each source: the output directory from the settings, the license from
the environment, the template directory from the arguments. -/
theorem requestOf_prefers_each :
    orderOf settled smallArguments = .ok settledOrder ∧
    pathFor (requestOf settled settledOrder) .outputDirectory = some "h/out" ∧
    pathFor (requestOf settled settledOrder) .licenseFile = some "l" ∧
    pathFor (requestOf settled settledOrder) .templateDirectory = some "t" ∧
    (requestOf settled settledOrder).moduleName = "PyQt6" := by
  have horder : orderOf settled smallArguments = .ok settledOrder :=
    Template.eq_ok_of_toOption (by decide +kernel)
  have hsettings : (Settings.find settled).1 = ⟨some "a", none, some "~/out", some "PyQt6"⟩ := by
    decide +kernel
  obtain ⟨rest, given, hrest, hgiven, -, -, hpaths, hmodule⟩ := requestOf_prefers horder
  obtain rfl : rest = ["class", "N", "--template-dir", "t"] := by
    cases hrest
    rfl
  obtain rfl : given = ⟨[], [(.templateDirectory, "t")], some .classes, some "N"⟩ := by
    have hread : Given.ofArguments ["class", "N", "--template-dir", "t"] =
        .ok ⟨[], [(.templateDirectory, "t")], some .classes, some "N"⟩ :=
      Template.eq_ok_of_toOption (by decide +kernel)
    exact Except.ok.inj (hgiven.symm.trans hread)
  have hhome : ∀ parameter setting, ¬ EndsEmpty settled
      ⟨[], [(.templateDirectory, "t")], some .classes, some "N"⟩ parameter setting := by
    intro parameter setting h
    exact absurd h.home (by decide)
  rw [hsettings] at hpaths hmodule
  refine ⟨horder, ?_, ?_, ?_, hmodule⟩
  · rw [(hpaths .outputDirectory rfl).1.2 (hhome _ _)]
    decide +kernel
  · rw [(hpaths .licenseFile rfl).1.2 (hhome _ _)]
    decide +kernel
  · rw [(hpaths .templateDirectory rfl).1.2 (hhome _ _)]
    decide +kernel

/-- **A request can have a path that is empty**: settings that name the home directory give an empty
output directory if that is empty. -/
theorem requestOf_keeps_empty :
    orderOf homeless smallArguments =
      .ok ⟨.classes, "N", ⟨[], [(.templateDirectory, "t")], some .classes, some "N"⟩⟩ ∧
    pathFor (requestOf homeless
        ⟨.classes, "N", ⟨[], [(.templateDirectory, "t")], some .classes, some "N"⟩⟩)
      .outputDirectory = some "" :=
  ⟨Template.eq_ok_of_toOption (by decide +kernel), by decide +kernel⟩

end CommandLine

end Scaffold
