import Modelsmith.Dialect.Basic

/-! Templates of JavaScript programs. -/

set_option autoImplicit false

namespace Modelsmith.Dialect

namespace JavaScript

/-! Parts of programs. -/

def beginning : List String := [
  "class \x7b\x7bclass_name\x7d\x7d \x7b",
  "",
  "    constructor(lefts, rights, thresholds, indices, classes) \x7b",
  "        this.lefts = lefts;",
  "        this.rights = rights;",
  "        this.thresholds = thresholds;",
  "        this.indices = indices;",
  "        this.classes = classes;",
  "    \x7d",
  "",
  "    compute(features) \x7b"]

def search : List String := [
  "        let node = 0;",
  "        while (this.thresholds[node] !== -2) \x7b",
  "            const next = features[this.indices[node]] <= this.thresholds[node]",
  "                ? this.lefts[node]",
  "                : this.rights[node];",
  "            if (next === -1) \x7b",
  "                return new Array(this.classes[0].length).fill(0);",
  "            \x7d",
  "            node = next;",
  "        \x7d",
  "        return this.classes[node];"]

def methods : List String := [
  "    \x7d",
  "",
  "\x7b\x7bmethods\x7d\x7d",
  "\x7d",
  ""]

def check : List String := [
  "    if (features.length !== \x7b\x7bn_features\x7d\x7d) \x7b",
  "        console.error(`expected \x7b\x7bn_features\x7d\x7d features, got $\x7bfeatures.length\x7d`);",
  "        process.exit(1);",
  "    \x7d"]

def arguments : List String := [
  "if (require.main === module) \x7b",
  "    const features = process.argv.slice(2).map(Number);"] ++ check

def dataArguments : List String := [
  "if (require.main === module) \x7b",
  "    const data = JSON.parse(fs.readFileSync(process.argv[2], 'utf8'));",
  "    const features = process.argv.slice(3).map(Number);"] ++ check

def ending : List String := methods ++ arguments ++ [
  "    \x7b\x7blefts\x7d\x7d",
  "    \x7b\x7brights\x7d\x7d",
  "    \x7b\x7bthresholds\x7d\x7d",
  "    \x7b\x7bindices\x7d\x7d",
  "    \x7b\x7bclasses\x7d\x7d",
  "    const model = new \x7b\x7bclass_name\x7d\x7d(lefts, rights, thresholds, indices, classes);",
  "    \x7b\x7boutput\x7d\x7d",
  "\x7d",
  ""]

end JavaScript

open JavaScript in
def javaScript : Dialect where
  language := .javaScript
  sigil := ""
  depth := some 2
  entries := [
    ("int", "number"),
    ("double", "number"),
    ("indent", "    "),
    ("in_brackets", "[\x7b\x7bvalue\x7d\x7d]"),
    ("arr[]", "const \x7b\x7bname\x7d\x7d = \x7b\x7bvalues\x7d\x7d;"),
    ("arr[][]", "const \x7b\x7bname\x7d\x7d = \x7b\x7bvalues\x7d\x7d;"),
    ("arr[][][]", "const \x7b\x7bname\x7d\x7d = \x7b\x7bvalues\x7d\x7d;")] ++ braced ++ [
    ("output.predict", "console.log(JSON.stringify(\x7b predict: model.predict(features) \x7d));"),
    ("output.predict_proba", lines [
      "console.log(JSON.stringify(\x7b",
      "        predict: model.predict(features),",
      "        predictProba: model.predictProba(features),",
      "    \x7d));"]),
    ("tree.methods", lines [
      "    predict(features) \x7b",
      "        const classes = this.compute(features);",
      "        let index = 0;",
      "        for (let i = 1; i < classes.length; i++) \x7b",
      "            if (classes[i] > classes[index]) \x7b",
      "                index = i;",
      "            \x7d",
      "        \x7d",
      "        return index;",
      "    \x7d",
      "",
      "    predictProba(features) \x7b",
      "        const classes = this.compute(features);",
      "        const sum = classes.reduce((a, b) => a + b, 0);",
      "        return classes.map((c) => (sum > 0 ? c / sum : 0));",
      "    \x7d"]),
    ("tree.attached", lines (beginning ++ search ++ ending)),
    ("tree.combined", lines (beginning ++ [
      "        const classes = new Array(\x7b\x7bn_classes\x7d\x7d).fill(0);",
      "        \x7b\x7btree\x7d\x7d",
      "        return classes;"] ++ ending)),
    ("tree.exported", lines ([
      "const fs = require('fs');",
      ""] ++ beginning ++ search ++ methods ++ dataArguments ++ [
      "    const model = new \x7b\x7bclass_name\x7d\x7d(data.lefts, data.rights, data.thresholds, data.indices, data.classes);",
      "    \x7b\x7boutput\x7d\x7d",
      "\x7d",
      ""])),
    ("activation.hidden.identity", "return v;"),
    ("activation.hidden.logistic", "return v.map((x) => 1 / (1 + Math.exp(-x)));"),
    ("activation.hidden.tanh", "return v.map((x) => Math.tanh(x));"),
    ("activation.hidden.relu", "return v.map((x) => Math.max(0, x));"),
    ("activation.output.identity", "return v;"),
    ("activation.output.logistic", "return v.map((x) => 1 / (1 + Math.exp(-x)));"),
    ("activation.output.softmax", lines [
      "const max = Math.max(...v);",
      "        const exps = v.map((x) => Math.exp(x - max));",
      "        const sum = exps.reduce((a, b) => a + b, 0);",
      "        return exps.map((x) => x / sum);"]),
    ("mlp.classifier", lines [
      "    predictProba(features) \x7b",
      "        const out = this.forward(features);",
      "        if (out.length === 1) \x7b",
      "            return [1 - out[0], out[0]];",
      "        \x7d",
      "        return out;",
      "    \x7d",
      "",
      "    predict(features) \x7b",
      "        const probabilities = this.predictProba(features);",
      "        let index = 0;",
      "        for (let i = 1; i < probabilities.length; i++) \x7b",
      "            if (probabilities[i] > probabilities[index]) \x7b",
      "                index = i;",
      "            \x7d",
      "        \x7d",
      "        return index;",
      "    \x7d"]),
    ("mlp.regressor", lines [
      "    predict(features) \x7b",
      "        return this.forward(features)[0];",
      "    \x7d"]),
    ("mlp.class", lines [
      "class \x7b\x7bclass_name\x7d\x7d \x7b",
      "",
      "    constructor(layers, weights, bias) \x7b",
      "        this.layers = layers;",
      "        this.weights = weights;",
      "        this.bias = bias;",
      "    \x7d",
      "",
      "    hidden(v) \x7b",
      "        \x7b\x7bhidden_activation\x7d\x7d",
      "    \x7d",
      "",
      "    output(v) \x7b",
      "        \x7b\x7boutput_activation\x7d\x7d",
      "    \x7d",
      "",
      "    forward(features) \x7b",
      "        let activations = features;",
      "        for (let i = 0; i < this.layers.length; i++) \x7b",
      "            const next = this.bias[i].slice();",
      "            for (let j = 0; j < activations.length; j++) \x7b",
      "                for (let k = 0; k < next.length; k++) \x7b",
      "                    next[k] += activations[j] * this.weights[i][j][k];",
      "                \x7d",
      "            \x7d",
      "            activations = i === this.layers.length - 1 ? this.output(next) : this.hidden(next);",
      "        \x7d",
      "        return activations;",
      "    \x7d",
      "",
      "\x7b\x7bmethods\x7d\x7d",
      "\x7d"]),
    ("mlp.attached", lines ([
      "\x7b\x7bclass\x7d\x7d",
      ""] ++ arguments ++ [
      "    \x7b\x7blayers\x7d\x7d",
      "    \x7b\x7bweights\x7d\x7d",
      "    \x7b\x7bbias\x7d\x7d",
      "    const model = new \x7b\x7bclass_name\x7d\x7d(layers, weights, bias);",
      "    \x7b\x7boutput\x7d\x7d",
      "\x7d",
      ""])),
    ("mlp.exported", lines ([
      "const fs = require('fs');",
      "",
      "\x7b\x7bclass\x7d\x7d",
      ""] ++ dataArguments ++ [
      "    const model = new \x7b\x7bclass_name\x7d\x7d(data.layers, data.weights, data.bias);",
      "    \x7b\x7boutput\x7d\x7d",
      "\x7d",
      ""]))]

end Modelsmith.Dialect
