import Modelsmith.Dialect.Basic

/-! Templates of PHP programs. -/

set_option autoImplicit false

namespace Modelsmith.Dialect

namespace Php

/-! Parts of programs. -/

def beginning : List String := [
  "<?php",
  "",
  "class \x7b\x7bclass_name\x7d\x7d \x7b",
  "",
  "    private $lefts;",
  "    private $rights;",
  "    private $thresholds;",
  "    private $indices;",
  "    private $classes;",
  "",
  "    public function __construct($lefts, $rights, $thresholds, $indices, $classes) \x7b",
  "        $this->lefts = $lefts;",
  "        $this->rights = $rights;",
  "        $this->thresholds = $thresholds;",
  "        $this->indices = $indices;",
  "        $this->classes = $classes;",
  "    \x7d",
  "",
  "    private function compute($features) \x7b"]

def search : List String := [
  "        $node = 0;",
  "        while ($this->thresholds[$node] != -2) \x7b",
  "            $next = $features[$this->indices[$node]] <= $this->thresholds[$node]",
  "                ? $this->lefts[$node]",
  "                : $this->rights[$node];",
  "            if ($next == -1) \x7b",
  "                return array_fill(0, count($this->classes[0]), 0);",
  "            \x7d",
  "            $node = $next;",
  "        \x7d",
  "        return $this->classes[$node];"]

def methods : List String := [
  "    \x7d",
  "",
  "\x7b\x7bmethods\x7d\x7d",
  "\x7d",
  ""]

def ending : List String := methods ++ [
  "if ($argc - 1 != \x7b\x7bn_features\x7d\x7d) \x7b",
  "    fwrite(STDERR, 'expected \x7b\x7bn_features\x7d\x7d features, got ' . ($argc - 1) . \"\\n\");",
  "    exit(1);",
  "\x7d",
  "$features = array_map('floatval', array_slice($argv, 1));",
  "\x7b\x7blefts\x7d\x7d",
  "\x7b\x7brights\x7d\x7d",
  "\x7b\x7bthresholds\x7d\x7d",
  "\x7b\x7bindices\x7d\x7d",
  "\x7b\x7bclasses\x7d\x7d",
  "$model = new \x7b\x7bclass_name\x7d\x7d($lefts, $rights, $thresholds, $indices, $classes);",
  "\x7b\x7boutput\x7d\x7d",
  ""]

end Php

open Php in
def php : Dialect where
  language := .php
  sigil := "$"
  depth := some 2
  entries := [
    ("int", "int"),
    ("double", "float"),
    ("indent", "    "),
    ("in_brackets", "[\x7b\x7bvalue\x7d\x7d]"),
    ("arr[]", "\x7b\x7bname\x7d\x7d = \x7b\x7bvalues\x7d\x7d;"),
    ("arr[][]", "\x7b\x7bname\x7d\x7d = \x7b\x7bvalues\x7d\x7d;")] ++ braced ++ [
    ("output.predict", "echo json_encode(['predict' => $model->predict($features)]), \"\\n\";"),
    ("output.predict_proba", lines [
      "echo json_encode([",
      "    'predict' => $model->predict($features),",
      "    'predictProba' => $model->predictProba($features),",
      "]), \"\\n\";"]),
    ("tree.methods", lines [
      "    public function predict($features) \x7b",
      "        $classes = $this->compute($features);",
      "        $index = 0;",
      "        for ($i = 1; $i < count($classes); $i++) \x7b",
      "            if ($classes[$i] > $classes[$index]) \x7b",
      "                $index = $i;",
      "            \x7d",
      "        \x7d",
      "        return $index;",
      "    \x7d",
      "",
      "    public function predictProba($features) \x7b",
      "        $classes = $this->compute($features);",
      "        $sum = array_sum($classes);",
      "        $probabilities = [];",
      "        foreach ($classes as $count) \x7b",
      "            $probabilities[] = $sum > 0 ? $count / $sum : 0.0;",
      "        \x7d",
      "        return $probabilities;",
      "    \x7d"]),
    ("tree.attached", lines (beginning ++ search ++ ending)),
    ("tree.combined", lines (beginning ++ [
      "        $classes = array_fill(0, \x7b\x7bn_classes\x7d\x7d, 0);",
      "        \x7b\x7btree\x7d\x7d",
      "        return $classes;"] ++ ending)),
    ("tree.exported", lines (beginning ++ search ++ methods ++ [
      "if ($argc - 2 != \x7b\x7bn_features\x7d\x7d) \x7b",
      "    fwrite(STDERR, 'expected a data file and \x7b\x7bn_features\x7d\x7d features, got ' . ($argc - 1) . \" arguments\\n\");",
      "    exit(1);",
      "\x7d",
      "$data = json_decode(file_get_contents($argv[1]), true);",
      "$features = array_map('floatval', array_slice($argv, 2));",
      "$model = new \x7b\x7bclass_name\x7d\x7d($data['lefts'], $data['rights'], $data['thresholds'], $data['indices'], $data['classes']);",
      "\x7b\x7boutput\x7d\x7d",
      ""]))]

end Modelsmith.Dialect
