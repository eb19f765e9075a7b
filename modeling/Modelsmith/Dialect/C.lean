import Modelsmith.Dialect.Basic

/-! Templates of C99 programs. -/

set_option autoImplicit false

namespace Modelsmith.Dialect

namespace C

/-! Parts of programs. -/

def beginning : List String := [
  "#include <stdio.h>",
  "#include <stdlib.h>",
  "",
  "#define N_FEATURES \x7b\x7bn_features\x7d\x7d",
  "#define N_CLASSES \x7b\x7bn_classes\x7d\x7d",
  "",
  "\x7b\x7blefts\x7d\x7d",
  "\x7b\x7brights\x7d\x7d",
  "\x7b\x7bthresholds\x7d\x7d",
  "\x7b\x7bindices\x7d\x7d",
  "\x7b\x7bclasses\x7d\x7d",
  ""]

def ending : List String := [
  "\x7d",
  "",
  "\x7b\x7bmethods\x7d\x7d",
  "",
  "int main(int argc, const char *argv[]) \x7b",
  "    if (argc - 1 != N_FEATURES) \x7b",
  "        fprintf(stderr, \"expected %d features, got %d\\n\", N_FEATURES, argc - 1);",
  "        return 1;",
  "    \x7d",
  "    double features[N_FEATURES];",
  "    for (int i = 1; i < argc; i++) \x7b",
  "        features[i - 1] = atof(argv[i]);",
  "    \x7d",
  "    \x7b\x7boutput\x7d\x7d",
  "    return 0;",
  "\x7d",
  ""]

end C

open C in
def c : Dialect where
  language := .c
  sigil := ""
  depth := none
  entries := [
    ("int", "int"),
    ("double", "double"),
    ("indent", "    "),
    ("in_brackets", "\x7b\x7b\x7bvalue\x7d\x7d\x7d"),
    ("arr[]",
      "\x7b\x7btype\x7d\x7d \x7b\x7bname\x7d\x7d[\x7b\x7bn\x7d\x7d] = \x7b\x7bvalues\x7d\x7d;"),
    ("arr[][]",
      "\x7b\x7btype\x7d\x7d \x7b\x7bname\x7d\x7d[\x7b\x7bn\x7d\x7d][\x7b\x7bm\x7d\x7d] = \x7b\x7bvalues\x7d\x7d;")] ++ braced ++ [
    ("output.predict", "printf(\"\x7b\\\"predict\\\": %d\x7d\\n\", predict(features));"),
    ("output.predict_proba", lines [
      "double probabilities[N_CLASSES];",
      "    predict_proba(features, probabilities);",
      "    printf(\"\x7b\\\"predict\\\": %d, \\\"predictProba\\\": [\", predict(features));",
      "    for (int i = 0; i < N_CLASSES; i++) \x7b",
      "        printf(i > 0 ? \", %.17g\" : \"%.17g\", probabilities[i]);",
      "    \x7d",
      "    printf(\"]\x7d\\n\");"]),
    ("tree.methods", lines [
      "int predict(double features[]) \x7b",
      "    int classes[N_CLASSES] = \x7b0\x7d;",
      "    compute(features, classes);",
      "    int index = 0;",
      "    for (int i = 1; i < N_CLASSES; i++) \x7b",
      "        if (classes[i] > classes[index]) \x7b",
      "            index = i;",
      "        \x7d",
      "    \x7d",
      "    return index;",
      "\x7d",
      "",
      "void predict_proba(double features[], double probabilities[]) \x7b",
      "    int classes[N_CLASSES] = \x7b0\x7d;",
      "    compute(features, classes);",
      "    long sum = 0;",
      "    for (int i = 0; i < N_CLASSES; i++) \x7b",
      "        sum += classes[i];",
      "    \x7d",
      "    for (int i = 0; i < N_CLASSES; i++) \x7b",
      "        probabilities[i] = sum > 0 ? (double) classes[i] / sum : 0.0;",
      "    \x7d",
      "\x7d"]),
    ("tree.attached", lines (beginning ++ [
      "void compute(double features[], int out[]) \x7b",
      "    int node = 0;",
      "    while (thresholds[node] != -2) \x7b",
      "        int next = features[indices[node]] <= thresholds[node] ? lefts[node] : rights[node];",
      "        if (next == -1) \x7b",
      "            for (int i = 0; i < N_CLASSES; i++) \x7b",
      "                out[i] = 0;",
      "            \x7d",
      "            return;",
      "        \x7d",
      "        node = next;",
      "    \x7d",
      "    for (int i = 0; i < N_CLASSES; i++) \x7b",
      "        out[i] = classes[node][i];",
      "    \x7d"] ++ ending)),
    ("tree.combined", lines (beginning ++ [
      "void compute(double features[], int classes[]) \x7b",
      "    \x7b\x7btree\x7d\x7d"] ++ ending))]

end Modelsmith.Dialect
