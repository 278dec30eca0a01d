import Scaffold.Proofs.Expansion.Printing
import Scaffold.Proofs.Generation.Failing

/-!
# What a run starts with

The plan of a request, the fields for all its files and the text of a file, put together from what
is known of the templates; nothing here knows of a particular family of them. Main facts:

* `Source.Bundled.find?_of_mem_files` : each template that comes with the program is found under its
  own path;
* `Source.readText_bundled`, `Source.readText_of_entryAt?` : a template is read as it is, wherever
  it comes from;
* `plan_of_bundled`, `prepare_of_resolves` : what the plan of a run is, and what its fields are;
* `renderFile_of_writes` : a file renders to what its templates write with its fields.
-/

namespace Scaffold.Source

variable {disk : Disk}

/-! ## Templates that are read -/

/-- Of files no two of which have the same path, each is found under its own. -/
theorem Bundled.find?_of_pairwise {files : List (String × String)}
    (h : files.Pairwise fun file other => Path.same file.1 other.1 = false) :
    ∀ file ∈ files, (files.find? fun other => Path.same other.1 file.1) = some file := by
  induction files with
  | nil =>
    intro file hfile
    cases hfile
  | cons first rest ih =>
    intro file hfile
    rw [List.pairwise_cons] at h
    rcases List.mem_cons.1 hfile with rfl | hfile
    · exact List.find?_cons_of_pos (by simp [Path.same])
    · rw [List.find?_cons_of_neg (by simp [h.1 file hfile])]
      exact ih h.2 file hfile

/-- **The templates that come with the program** are found under their paths. -/
theorem Bundled.find?_of_mem_files {path text : String} (h : (path, text) ∈ files) :
    find? path = some text := by
  have hdistinct : files.Pairwise fun file other => Path.same file.1 other.1 = false := by
    decide +kernel
  have hfind : (files.find? fun other => Path.same other.1 path) = some (path, text) :=
    find?_of_pairwise hdistinct (path, text) h
  rw [find?, hfind, Option.map_some]

/-- A file whose bytes are those of a text is read as this text. -/
theorem readText_of_read {source : Source} {path text : String}
    (h : source.read disk path = .ok text.toUTF8) : source.readText disk path = .ok text := by
  have hutf8 : String.fromUTF8? text.toUTF8 = some text := by
    have hvalid : text.toUTF8.IsValidUTF8 := text.isValidUTF8
    rw [String.fromUTF8?, dif_pos hvalid]
    rfl
  rw [readText, h]
  dsimp only
  rw [hutf8]

/-- A file in a directory of templates is read if the path that is joined to it leads there. -/
theorem readText_of_entryAt? {root path text : String}
    (h : disk.entryAt? (Path.join root path) = some (.file text.toUTF8)) :
    readText (.directory root) disk path = .ok text := by
  have hread : read (.directory root) disk path = .ok text.toUTF8 := by
    unfold read
    dsimp only
    rw [h]
  exact readText_of_read hread

/-- A template that comes with the program is read as it is. -/
theorem readText_bundled {path text : String} (h : Bundled.find? path = some text)
    (disk : Disk) : readText .bundled disk path = .ok text := by
  have hread : read .bundled disk path = .ok text.toUTF8 := by
    unfold read
    dsimp only
    rw [h]
  exact readText_of_read hread

end Scaffold.Source

namespace Scaffold.Generation

open Template
open Expansion (Supplies Resolves expandText_of_writes functionFor viewOf)

variable {around : Surroundings} {request : Request} {job : Job} {disk : Disk}

/-! ## Planning -/

theorem load_of_readText {source : Source} {path text : String} {m : Manifest}
    (h : source.readText disk path = .ok text) (hm : Manifest.ofText text = .ok m) :
    Manifest.load source disk path = .ok m := by
  rw [Manifest.load, h]
  dsimp only
  rw [hm]

/-- A request whose manifest can be loaded has a plan. -/
theorem plan_of_load {target : Target} {m : Manifest}
    (htarget : Target.find? request.category request.typeName = some target)
    (hload : Manifest.load (sourceOf request) disk target.manifestPath = .ok m) :
    plan disk request = .ok ⟨sourceOf request, target.directory, m⟩ := by
  rw [plan, htarget]
  dsimp only
  rw [hload]

/-- **Without a directory of templates** the plan is made from those that come with the program,
whatever there is on the disk. -/
theorem plan_of_bundled {target : Target} {text : String} {m : Manifest}
    (htarget : Target.find? request.category request.typeName = some target)
    (htemplates : Request.given request.templateDirectory = none)
    (hfind : Source.Bundled.find? target.manifestPath = some text)
    (hmanifest : Manifest.ofText text = .ok m) :
    plan disk request = .ok ⟨.bundled, target.directory, m⟩ := by
  have hsource : sourceOf request = .bundled := by
    rw [sourceOf, htemplates]
  have hload : Manifest.load .bundled disk target.manifestPath = .ok m :=
    load_of_readText (Source.readText_bundled hfind disk) hmanifest
  rw [← hsource] at hload
  rw [plan_of_load htarget hload, hsource]

/-- **The fields of a run** are those that the definitions of its manifest are resolved to. -/
theorem prepare_of_resolves {p : Plan} {entries last : List (String × Field)}
    (hplan : plan around.disk request = .ok p) (hentries : Supplies request.fields entries)
    (hresolves : Resolves (Library.standard around) around entries p.manifest.fields last) :
    ∃ fields, prepare around request = .ok ⟨p, fields, request.outputDirectory⟩ ∧
      Supplies fields last := by
  obtain ⟨fields, hfields, hsupplies⟩ :=
    hresolves (around.chance.branch 0) request.fields hentries
  refine ⟨fields, ?_, hsupplies⟩
  rw [prepare_eq_ok_iff]
  exact ⟨hplan, hfields, rfl⟩

/-! ## Rendering files whose names are all there -/

/-- What the text of a file draws from, if its fields have the names of some entries. -/
def ofText (chance : Chance) (entries : List (String × Field)) : Chance :=
  ((chance.branch 2).branch 1).branch (Expansion.nameCount entries)

/-- **A file renders to what its templates write** with its fields. -/
theorem renderFile_of_writes {file : Manifest.File} {entries last : List (String × Field)}
    {body name text : String} {nameNodes nodes : List Node} (hcondition : file.condition = "")
    (hfields : Supplies job.fields entries)
    (hresolves : Resolves (Library.standard around) around entries file.fields last)
    (hname : Reads file.output nameNodes)
    (hwritesName : ∀ env, env.function? = functionFor (Library.standard around) around →
      ∀ {chance : Chance}, Writes env chance (viewOf last) nameNodes name)
    (hbody : job.plan.source.readText around.disk (templatePath job file) = .ok body)
    (hreads : Reads (job.plan.manifest.header ++ body) nodes)
    (hwrites : ∀ env, env.function? = functionFor (Library.standard around) around →
      Writes env (ofText around.chance last) (viewOf last) nodes text) :
    renderFile around job file = .ok (some ⟨name, trimLeading text⟩) := by
  obtain ⟨fields, hfinal, hlast⟩ := hresolves (around.chance.branch 1) job.fields hfields
  rw [renderFile_eq_some_iff]
  constructor
  · rw [holds, if_pos hcondition]
  · refine ⟨fields, hfinal, ?_, body, text, hbody, ?_, rfl⟩
    · rw [Library.standard_part]
      refine expandText_of_writes hlast hname (fun env henv => ?_) file.input
      exact hwritesName env henv
    · rw [Library.standard_part]
      refine expandText_of_writes hlast hreads (fun env henv => ?_) name
      exact hwrites env henv

end Scaffold.Generation
