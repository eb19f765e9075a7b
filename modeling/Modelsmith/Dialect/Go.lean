import Modelsmith.Dialect.Basic

/-! Templates of Go programs. -/

set_option autoImplicit false

namespace Modelsmith.Dialect

namespace Go

/-! Parts of programs. -/

def type : List String := [
  "",
  "type \x7b\x7bclass_name\x7d\x7d struct \x7b",
  "\tLefts      []int     `json:\"lefts\"`",
  "\tRights     []int     `json:\"rights\"`",
  "\tThresholds []float64 `json:\"thresholds\"`",
  "\tIndices    []int     `json:\"indices\"`",
  "\tClasses    [][]int   `json:\"classes\"`",
  "\x7d",
  "",
  "func (m \x7b\x7bclass_name\x7d\x7d) compute(features []float64) []int \x7b"]

def beginning : List String := [
  "package main",
  "",
  "import (",
  "\t\"fmt\"",
  "\t\"os\"",
  "\t\"strconv\"",
  ")",
  "",
  "\x7b\x7blefts\x7d\x7d",
  "\x7b\x7brights\x7d\x7d",
  "\x7b\x7bthresholds\x7d\x7d",
  "\x7b\x7bindices\x7d\x7d",
  "\x7b\x7bclasses\x7d\x7d"] ++ type

def search : List String := [
  "\tnode := 0",
  "\tfor m.Thresholds[node] != -2 \x7b",
  "\t\tnext := m.Rights[node]",
  "\t\tif features[m.Indices[node]] <= m.Thresholds[node] \x7b",
  "\t\t\tnext = m.Lefts[node]",
  "\t\t\x7d",
  "\t\tif next == -1 \x7b",
  "\t\t\treturn make([]int, len(m.Classes[0]))",
  "\t\t\x7d",
  "\t\tnode = next",
  "\t\x7d",
  "\treturn m.Classes[node]"]

def methods : List String := [
  "\x7d",
  "",
  "\x7b\x7bmethods\x7d\x7d",
  "",
  "func main() \x7b"]

def features : List String := [
  "\tif len(args) != \x7b\x7bn_features\x7d\x7d \x7b",
  "\t\tfmt.Fprintf(os.Stderr, \"expected %d features, got %d\\n\", \x7b\x7bn_features\x7d\x7d, len(args))",
  "\t\tos.Exit(1)",
  "\t\x7d",
  "\tfeatures := make([]float64, 0, len(args))",
  "\tfor _, arg := range args \x7b",
  "\t\tvalue, err := strconv.ParseFloat(arg, 64)",
  "\t\tif err != nil \x7b",
  "\t\t\tfmt.Fprintln(os.Stderr, err)",
  "\t\t\tos.Exit(1)",
  "\t\t\x7d",
  "\t\tfeatures = append(features, value)",
  "\t\x7d"]

def ending : List String := methods ++ [
  "\targs := os.Args[1:]"] ++ features ++ [
  "\tmodel := \x7b\x7bclass_name\x7d\x7d\x7blefts, rights, thresholds, indices, classes\x7d",
  "\t\x7b\x7boutput\x7d\x7d",
  "\x7d",
  ""]

end Go

open Go in
def go : Dialect where
  language := .go
  sigil := ""
  depth := none
  entries := [
    ("int", "int"),
    ("double", "float64"),
    ("indent", "\t"),
    ("in_brackets", "\x7b\x7b\x7bvalue\x7d\x7d\x7d"),
    ("arr[]", "var \x7b\x7bname\x7d\x7d = []\x7b\x7btype\x7d\x7d\x7b\x7bvalues\x7d\x7d"),
    ("arr[][]", "var \x7b\x7bname\x7d\x7d = [][]\x7b\x7btype\x7d\x7d\x7b\x7bvalues\x7d\x7d"),
    ("if",
      "if \x7b\x7bfeatures\x7d\x7d[\x7b\x7bindex\x7d\x7d] \x7b\x7bop\x7d\x7d \x7b\x7bthreshold\x7d\x7d \x7b"),
    ("else", "\x7d else \x7b"),
    ("endif", "\x7d"),
    ("assign", "\x7b\x7bclasses\x7d\x7d[\x7b\x7bindex\x7d\x7d] = \x7b\x7bvalue\x7d\x7d"),
    ("join", ""),
    ("output.predict", "fmt.Printf(\"\x7b\\\"predict\\\": %d\x7d\\n\", model.predict(features))"),
    ("output.predict_proba", lines [
      "probabilities := model.predictProba(features)",
      "\tfmt.Printf(\"\x7b\\\"predict\\\": %d, \\\"predictProba\\\": [\", model.predict(features))",
      "\tfor i, p := range probabilities \x7b",
      "\t\tif i > 0 \x7b",
      "\t\t\tfmt.Print(\", \")",
      "\t\t\x7d",
      "\t\tfmt.Print(strconv.FormatFloat(p, 'g', -1, 64))",
      "\t\x7d",
      "\tfmt.Println(\"]\x7d\")"]),
    ("tree.methods", lines [
      "func (m \x7b\x7bclass_name\x7d\x7d) predict(features []float64) int \x7b",
      "\tclasses := m.compute(features)",
      "\tindex := 0",
      "\tfor i := 1; i < len(classes); i++ \x7b",
      "\t\tif classes[i] > classes[index] \x7b",
      "\t\t\tindex = i",
      "\t\t\x7d",
      "\t\x7d",
      "\treturn index",
      "\x7d",
      "",
      "func (m \x7b\x7bclass_name\x7d\x7d) predictProba(features []float64) []float64 \x7b",
      "\tclasses := m.compute(features)",
      "\tsum := 0",
      "\tfor _, c := range classes \x7b",
      "\t\tsum += c",
      "\t\x7d",
      "\tprobabilities := make([]float64, len(classes))",
      "\tfor i, c := range classes \x7b",
      "\t\tif sum > 0 \x7b",
      "\t\t\tprobabilities[i] = float64(c) / float64(sum)",
      "\t\t\x7d",
      "\t\x7d",
      "\treturn probabilities",
      "\x7d"]),
    ("tree.attached", lines (beginning ++ search ++ ending)),
    ("tree.combined", lines (beginning ++ [
      "\tclasses := make([]int, \x7b\x7bn_classes\x7d\x7d)",
      "\t\x7b\x7btree\x7d\x7d",
      "\treturn classes"] ++ ending)),
    ("tree.exported", lines ([
      "package main",
      "",
      "import (",
      "\t\"encoding/json\"",
      "\t\"fmt\"",
      "\t\"os\"",
      "\t\"strconv\"",
      ")"] ++ type ++ search ++ methods ++ [
      "\tif len(os.Args) < 2 \x7b",
      "\t\tfmt.Fprintln(os.Stderr, \"usage: <data.json> <features...>\")",
      "\t\tos.Exit(1)",
      "\t\x7d",
      "\tdata, err := os.ReadFile(os.Args[1])",
      "\tif err != nil \x7b",
      "\t\tfmt.Fprintln(os.Stderr, err)",
      "\t\tos.Exit(1)",
      "\t\x7d",
      "\tvar model \x7b\x7bclass_name\x7d\x7d",
      "\tif err := json.Unmarshal(data, &model); err != nil \x7b",
      "\t\tfmt.Fprintln(os.Stderr, err)",
      "\t\tos.Exit(1)",
      "\t\x7d",
      "\targs := os.Args[2:]"] ++ features ++ [
      "\t\x7b\x7boutput\x7d\x7d",
      "\x7d",
      ""]))]

end Modelsmith.Dialect
