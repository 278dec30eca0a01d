import Scaffold.Field.Basic
import Scaffold.Target

/-!
# Requests

A request names a target and what is to be generated, where the output goes, and the parameters that
templates read. An empty path counts as none.
-/

namespace Scaffold

/-- What is asked for. -/
structure Request where
  category : Category
  typeName : String
  name : String
  outputDirectory : Option String
  licenseFile : Option String
  templateDirectory : Option String
  baseClass : String
  macros : List String
  includes : List String
  isQObject : Bool
  usesPragma : Bool
  moduleName : String
  imports : List String

namespace Request

/-- A path that is given and not empty. -/
def given (path : Option String) : Option String := path.filter (· ≠ "")

/-- The parameters of a request under the names by which templates read them. -/
def fields (request : Request) : Fields :=
  let path (p : Option String) : Field := .text ((given p).getD "")
  .ofList [("qArgName", .text request.name), ("qArgType", .text request.typeName),
    ("qArgOutputDir", path request.outputDirectory),
    ("qArgLicenseFile", path request.licenseFile),
    ("qArgTemplateDir", path request.templateDirectory), ("qArgBase", .text request.baseClass),
    ("qArgAdd", .list request.macros), ("qArgInclude", .list request.includes),
    ("qArgQObject", .flag request.isQObject), ("qArgPragma", .flag request.usesPragma),
    ("qArgModule", .text request.moduleName), ("qArgImport", .list request.imports)]

end Request

end Scaffold
