import Modelsmith.Program.Literal
import Modelsmith.Failure

/-! Generated programs and what they are asked to be. -/

set_option autoImplicit false

namespace Modelsmith

structure Target where
  language : Language
  packaging : Packaging
  method : Method
  /-- Name of the generated class, and of the files without their extension. -/
  className : String
  extension : String
  converter : Converter

/-- An ASCII letter, then ASCII letters, digits and underscores. -/
def isClassName (name : String) : Bool :=
  match name.toList with
  | [] => false
  | first :: rest => first.isAlpha && rest.all fun c => c.isAlphanum || c = '_'

def Method.outputTemplate : Method → String
  | .predict => "output.predict"
  | .probabilities => "output.predict_proba"

structure Program where
  className : String
  language : Language
  packaging : Packaging
  method : Method
  extension : String
  source : String
  data : Option String

namespace Program

def sourceFile (program : Program) : String := program.className ++ "." ++ program.extension

def dataFile (program : Program) : Option String :=
  program.data.map fun _ => program.className ++ ".json"

def writeFile (files : Files) (path content : String) : Except Failure Files :=
  match files.writeText path content with
  | .ok files => .ok files
  | .error fault => .error (.file .write path fault)

def createDirectory (files : Files) (path : String) : Except Failure Unit × Files :=
  match files.createDirectories path with
  | (.ok _, files) => (.ok (), files)
  | (.error fault, files) => (.error (.file .createDirectory path fault), files)

/-- Writes the source and the data into a directory. The result tells which paths were written;
what was written before a failure stays. -/
def save (program : Program) (directory : String) (files : Files) :
    Except Failure (List String) × Files :=
  match createDirectory files directory with
  | (.error failure, files) => (.error failure, files)
  | (.ok _, files) =>
    let sourcePath := Path.join directory program.sourceFile
    match writeFile files sourcePath program.source with
    | .error failure => (.error failure, files)
    | .ok files =>
      match program.data with
      | none => (.ok [sourcePath], files)
      | some data =>
        let dataPath := Path.join directory (program.className ++ ".json")
        match writeFile files dataPath data with
        | .error failure => (.error failure, files)
        | .ok files => (.ok [sourcePath, dataPath], files)

end Program

end Modelsmith
