import Modelsmith.Dialect.C
import Modelsmith.Dialect.Go
import Modelsmith.Dialect.Java
import Modelsmith.Dialect.JavaScript
import Modelsmith.Dialect.Php
import Modelsmith.Dialect.Ruby

/-! The dialect of each language. -/

set_option autoImplicit false

namespace Modelsmith

def Language.dialect : Language → Dialect
  | .c => Dialect.c
  | .go => Dialect.go
  | .java => Dialect.java
  | .javaScript => Dialect.javaScript
  | .php => Dialect.php
  | .ruby => Dialect.ruby

end Modelsmith
