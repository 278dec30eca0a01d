import Scaffold.Proofs.Generation.CppClass.Fields

/-!
# Writing a class in C++

What the templates of the two files write with the fields for a class in C++, whatever the texts in
these fields are. Main facts: `shows_license`, what stands in front of a file with a license, and
`writes_header` and `writes_source`, what follows.
-/

namespace Scaffold.Generation.CppClass

open Template
open Expansion (viewOf)

variable {license front : String} {request : Request} {around : Surroundings} {env : Env}
  {chance : Chance} {view : View}

theorem shows_whenever {c : Expr} {b : Bool} {body : List Node} {text : String}
    {opening closing : Edges} (hc : Decides env (chance.branch 0 |>.branch 0) view c b)
    (hbody : Prints env (chance.branch 0 |>.branch 1) view body text) :
    Shows env chance view (whenever c body opening closing) (if b then text else "") :=
  .cond (.cons hc hbody .nothing)

/-- Without a license nothing stands in front of a file. -/
theorem shows_noLicense (hlicense : lookupEntry "qArgLicenseFile" view = some (.string "")) :
    Shows env chance view licenseNode "" :=
  .cond (.skip (.text hlicense) .nothing)

/-- What the license of a file draws from. -/
def ofLicense (chance : Chance) : Chance := ((chance.branch 0 |>.branch 1).branch 0).ofCall

/-- **With a license** its text stands in front of a file, and the end of a line. -/
theorem shows_license {fileName : String} (h : CallsLibrary around env) (hgiven : license ≠ "")
    (hlicense : lookupEntry "qArgLicenseFile" view = some (.string license))
    (hclass : lookupEntry "className" view = some (.string (className request)))
    (hfile : lookupEntry "fileName" view = some (.string fileName))
    (htext : Library.license (around.drawing (ofLicense chance)) license
      (licenseFieldsFor request fileName) = .ok front) :
    Shows env chance view licenseNode (front ++ "\n") := by
  have hdecides : Decides env (chance.branch 0 |>.branch 0) view (name "qArgLicenseFile")
      (license != "") := .text hlicense
  rw [bne_iff_ne.2 hgiven] at hdecides
  exact shows_whenever hdecides
    (.cons (.print (gives_license h hlicense hclass hfile htext)) (.only (.text _)))

/-- Texts that are left out do not count. -/
theorem join_map_filter (f : String → String) (p : String → Bool) (items : List String) :
    String.join ((items.filter p).map f) =
      String.join (items.map fun s => if p s then f s else "") := by
  induction items with
  | nil => rfl
  | cons s items ih =>
    rw [List.map_cons, String.join_cons, ← ih, List.filter_cons]
    split
    · rw [List.map_cons, String.join_cons]
    · rw [String.empty_append]

/-- **The header**, behind what stands in front of it and the end of a line. -/
theorem writes_header (h : CallsLibrary around env)
    (hfront : Shows env (chance.branch 0) (viewOf (headerEntries license request)) licenseNode
      front) :
    Writes env chance (viewOf (headerEntries license request)) headerNodes
      (front ++ ("\n" ++ headerText request)) := by
  apply Writes.of_eq
  · apply Writes.cons hfront
    apply Writes.cons (.text _)
    -- The guard.
    apply Writes.cons (.cond (.cons (.flag rfl) (.only (.text _)) (.otherwise (.cons (.text _)
      (.cons (.print (.name rfl)) (.cons (.text _) (.only (.print (.name rfl)))))))))
    apply Writes.cons (.text _)
    -- What is included.
    apply Writes.assign (by decide) (gives_withBase rfl rfl) (by simp)
    apply Writes.assign (by decide) (gives_includes h rfl) (by simp)
    apply Writes.cons (shows_whenever (.list rfl) (.cons (.text _) (.only (.loop (by decide)
      rfl fun i => .cons (.text _) (.cons (.print (.name rfl)) (.only (.text _)))))))
    apply Writes.cons (.text _)
    -- The scopes and the first line of the class.
    apply Writes.assign (by decide) (gives_openings h rfl) (by simp)
    apply Writes.cons (shows_whenever (.text rfl) (.cons (.print (.name rfl)) (.only (.text _))))
    apply Writes.cons (.text _)
    apply Writes.cons (.print (.name rfl))
    apply Writes.cons (shows_whenever (.text rfl) (.cons (.text _) (.only (.print (.name rfl)))))
    apply Writes.cons (.text _)
    -- The macros.
    apply Writes.cons (shows_whenever (decides_flagText rfl) (.only (.text _)))
    apply Writes.cons (.loop (by decide) rfl fun m => .only (shows_whenever
      (.ne (.name rfl) (.text _)) (.cons (.text _) (.only (.print (.name rfl))))))
    apply Writes.cons (.text _)
    -- The constructor and the destructor.
    apply Writes.cons (.cond (.cons (decides_flagText rfl)
      (.cons (.text _) (.cons (.print (.name rfl)) (.cons (.text _)
        (.cons (.print (.name rfl)) (.only (.text _))))))
      (.otherwise (.cons (.print (.name rfl)) (.only (.text _))))))
    apply Writes.cons (.text _)
    apply Writes.cons (.print (.name rfl))
    apply Writes.cons (.text _)
    apply Writes.cons (shows_whenever (.text rfl) (.only (.text _)))
    apply Writes.cons (.text _)
    -- The end of the scopes and of the guard.
    apply Writes.assign (by decide) (gives_closings h rfl) (by simp)
    apply Writes.cons (shows_whenever (.text rfl)
      (.cons (.text _) (.cons (.print (.name rfl)) (.only (.text _)))))
    apply Writes.only (shows_whenever (.not_flag rfl)
      (.cons (.text _) (.cons (.print (.name rfl)) (.only (.text _)))))
  · unfold headerText includes
    simp only [String.append_assoc, bne_iff_ne, join_map_filter]

/-- **The source file**, behind what stands in front of it and the end of a line. -/
theorem writes_source (h : CallsLibrary around env)
    (hfront : Shows env (chance.branch 0) (viewOf (sourceEntries license request)) licenseNode
      front) :
    Writes env chance (viewOf (sourceEntries license request)) sourceNodes
      (front ++ ("\n" ++ sourceText request)) := by
  apply Writes.of_eq
  · apply Writes.cons hfront
    apply Writes.cons (.text _)
    apply Writes.cons (.print (.name rfl))
    apply Writes.cons (.text _)
    -- The scopes.
    apply Writes.assign (by decide) (gives_openings h rfl) (by simp)
    apply Writes.cons (shows_whenever (.text rfl)
      (.cons (.text _) (.cons (.print (.name rfl)) (.only (.text _)))))
    apply Writes.cons (.text _)
    -- The constructor and the destructor.
    apply Writes.cons (.cond (.cons (decides_flagText rfl)
      (.cons (.print (.name rfl)) (.cons (.text _) (.cons (.print (.name rfl)) (.cons (.text _)
        (.cons (.print (.name rfl)) (.cons (.text _) (.cons (.print (.name rfl))
          (.only (.text _)))))))))
      (.otherwise (.cons (.print (.name rfl)) (.cons (.text _) (.cons (.print (.name rfl))
        (.only (.text _))))))))
    apply Writes.cons (.text _)
    apply Writes.cons (.print (.name rfl))
    apply Writes.cons (.text _)
    apply Writes.cons (.print (.name rfl))
    apply Writes.cons (.text _)
    -- The end of the scopes.
    apply Writes.assign (by decide) (gives_closings h rfl) (by simp)
    apply Writes.only (shows_whenever (.text rfl)
      (.cons (.text _) (.cons (.print (.name rfl)) (.only (.text _)))))
  · have hfirst : "\n#include \"" = "\n" ++ "#include \"" := by decide
    unfold sourceText
    rw [hfirst]
    simp only [String.append_assoc, bne_iff_ne]

end Scaffold.Generation.CppClass
