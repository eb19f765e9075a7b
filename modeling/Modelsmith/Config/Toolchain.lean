import Modelsmith.Target
import Modelsmith.Text.Blank

/-! How programs of a language are compiled and run. -/

set_option autoImplicit false

namespace Modelsmith

structure Library where
  fileName : String
  url : String
  /-- Environment variable that names a copy. -/
  pathVariable : String
  /-- Environment variable that replaces the address. -/
  urlVariable : String
  deriving DecidableEq

def Library.gson : Library where
  fileName := "gson.jar"
  url := "https://repo1.maven.org/maven2/com/google/code/gson/gson/2.10.1/gson-2.10.1.jar"
  pathVariable := "PORTER_GSON_PATH"
  urlVariable := "PORTER_GSON_URL"

/-- Commands have the slots `src_path`, `dest_path`, `dest_dir`, `class_name` and `class_path`. -/
structure Toolchain where
  language : Language
  extension : String
  /-- Absent when programs are interpreted. -/
  compile : Option String
  execute : String
  dependencies : List String
  library : Option Library
  deriving DecidableEq

structure Override where
  compile : Option String := none
  execute : Option String := none
  dependencies : Option (List String) := none
  extension : Option String := none
  deriving DecidableEq

namespace Toolchain

def builtin : Language → Toolchain
  | .c => {
    language := .c
    extension := Language.c.extension
    compile := some "gcc \x7b\x7bsrc_path\x7d\x7d -std=c99 -lm -o \x7b\x7bdest_path\x7d\x7d"
    execute := "\x7b\x7bdest_path\x7d\x7d"
    dependencies := ["gcc"]
    library := none }
  | .go => {
    language := .go
    extension := Language.go.extension
    compile := some "go build -o \x7b\x7bdest_path\x7d\x7d \x7b\x7bsrc_path\x7d\x7d"
    execute := "\x7b\x7bdest_path\x7d\x7d"
    dependencies := ["go"]
    library := none }
  | .java => {
    language := .java
    extension := Language.java.extension
    compile := some
      "javac \x7b\x7bclass_path\x7d\x7d -d \x7b\x7bdest_dir\x7d\x7d \x7b\x7bsrc_path\x7d\x7d"
    execute := "java \x7b\x7bclass_path\x7d\x7d \x7b\x7bclass_name\x7d\x7d"
    dependencies := ["java", "javac"]
    library := some Library.gson }
  | .javaScript => {
    language := .javaScript
    extension := Language.javaScript.extension
    compile := none
    execute := "node \x7b\x7bsrc_path\x7d\x7d"
    dependencies := ["node"]
    library := none }
  | .php => {
    language := .php
    extension := Language.php.extension
    compile := none
    execute := "php \x7b\x7bsrc_path\x7d\x7d"
    dependencies := ["php"]
    library := none }
  | .ruby => {
    language := .ruby
    extension := Language.ruby.extension
    compile := none
    execute := "ruby \x7b\x7bsrc_path\x7d\x7d"
    dependencies := ["ruby"]
    library := none }

def isCompiled (toolchain : Toolchain) : Bool := toolchain.compile.isSome

/-- A blank command means that nothing is compiled. -/
def compileCommand (command : String) : Option String :=
  if command.toList.all Text.isBlank then none else some command

def bareExtension (extension : String) : String :=
  String.ofList (extension.toList.dropWhile (· = '.'))

def apply (toolchain : Toolchain) (override : Override) : Toolchain :=
  { toolchain with
    compile := match override.compile with
      | some command => compileCommand command
      | none => toolchain.compile
    execute := override.execute.getD toolchain.execute
    dependencies := override.dependencies.getD toolchain.dependencies
    extension := (override.extension.map bareExtension).getD toolchain.extension }

end Toolchain

end Modelsmith
