import Modelsmith.Dialect.Basic

/-! Templates of Ruby programs. -/

set_option autoImplicit false

namespace Modelsmith.Dialect

namespace Ruby

/-! Parts of programs. -/

def beginning : List String := [
  "require 'json'",
  "",
  "class \x7b\x7bclass_name\x7d\x7d",
  "",
  "    def initialize(lefts, rights, thresholds, indices, classes)",
  "        @lefts = lefts",
  "        @rights = rights",
  "        @thresholds = thresholds",
  "        @indices = indices",
  "        @classes = classes",
  "    end",
  "",
  "    def compute(features)"]

def search : List String := [
  "        node = 0",
  "        while @thresholds[node] != -2",
  "            child = features[@indices[node]] <= @thresholds[node] ? @lefts[node] : @rights[node]",
  "            return Array.new(@classes[0].length, 0) if child == -1",
  "            node = child",
  "        end",
  "        @classes[node]"]

def methods : List String := [
  "    end",
  "",
  "\x7b\x7bmethods\x7d\x7d",
  "",
  "end",
  "",
  "if __FILE__ == $0"]

def ending : List String := methods ++ [
  "    if ARGV.length != \x7b\x7bn_features\x7d\x7d",
  "        $stderr.puts \"expected \x7b\x7bn_features\x7d\x7d features, got #\x7bARGV.length\x7d\"",
  "        exit 1",
  "    end",
  "    features = ARGV.map(&:to_f)",
  "    \x7b\x7blefts\x7d\x7d",
  "    \x7b\x7brights\x7d\x7d",
  "    \x7b\x7bthresholds\x7d\x7d",
  "    \x7b\x7bindices\x7d\x7d",
  "    \x7b\x7bclasses\x7d\x7d",
  "    model = \x7b\x7bclass_name\x7d\x7d.new(lefts, rights, thresholds, indices, classes)",
  "    \x7b\x7boutput\x7d\x7d",
  "end",
  ""]

end Ruby

open Ruby in
def ruby : Dialect where
  language := .ruby
  sigil := ""
  depth := some 2
  entries := [
    ("int", "Integer"),
    ("double", "Float"),
    ("indent", "    "),
    ("in_brackets", "[\x7b\x7bvalue\x7d\x7d]"),
    ("arr[]", "\x7b\x7bname\x7d\x7d = \x7b\x7bvalues\x7d\x7d"),
    ("arr[][]", "\x7b\x7bname\x7d\x7d = \x7b\x7bvalues\x7d\x7d"),
    ("if",
      "if \x7b\x7bfeatures\x7d\x7d[\x7b\x7bindex\x7d\x7d] \x7b\x7bop\x7d\x7d \x7b\x7bthreshold\x7d\x7d"),
    ("else", "else"),
    ("endif", "end"),
    ("assign", "\x7b\x7bclasses\x7d\x7d[\x7b\x7bindex\x7d\x7d] = \x7b\x7bvalue\x7d\x7d"),
    ("join", ""),
    ("output.predict", "puts JSON.generate(\x7b 'predict' => model.predict(features) \x7d)"),
    ("output.predict_proba", lines [
      "puts JSON.generate(\x7b",
      "        'predict' => model.predict(features),",
      "        'predictProba' => model.predict_proba(features)",
      "    \x7d)"]),
    ("tree.methods", lines [
      "    def predict(features)",
      "        classes = compute(features)",
      "        index = 0",
      "        (1...classes.length).each do |i|",
      "            index = i if classes[i] > classes[index]",
      "        end",
      "        index",
      "    end",
      "",
      "    def predict_proba(features)",
      "        classes = compute(features)",
      "        sum = classes.sum",
      "        classes.map \x7b |c| sum > 0 ? c.to_f / sum : 0.0 \x7d",
      "    end"]),
    ("tree.attached", lines (beginning ++ search ++ ending)),
    ("tree.combined", lines (beginning ++ [
      "        classes = Array.new(\x7b\x7bn_classes\x7d\x7d, 0)",
      "        \x7b\x7btree\x7d\x7d",
      "        classes"] ++ ending)),
    ("tree.exported", lines (beginning ++ search ++ methods ++ [
      "    if ARGV.length != \x7b\x7bn_features\x7d\x7d + 1",
      "        $stderr.puts \"expected a data file and \x7b\x7bn_features\x7d\x7d features, got #\x7bARGV.length\x7d arguments\"",
      "        exit 1",
      "    end",
      "    data = JSON.parse(File.read(ARGV[0]))",
      "    features = ARGV.drop(1).map(&:to_f)",
      "    model = \x7b\x7bclass_name\x7d\x7d.new(data['lefts'], data['rights'], data['thresholds'], data['indices'], data['classes'])",
      "    \x7b\x7boutput\x7d\x7d",
      "end",
      ""]))]

end Modelsmith.Dialect
