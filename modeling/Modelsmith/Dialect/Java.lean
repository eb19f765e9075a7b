import Modelsmith.Dialect.Basic

/-! Templates of Java programs. -/

set_option autoImplicit false

namespace Modelsmith.Dialect

namespace Java

/-! Parts of programs. -/

def fields : List String := [
  "    private int[] lefts;",
  "    private int[] rights;",
  "    private double[] thresholds;",
  "    private int[] indices;",
  "    private int[][] classes;"]

def beginning : List String := [
  "public class \x7b\x7bclass_name\x7d\x7d \x7b",
  ""] ++ fields ++ [
  "",
  "    public \x7b\x7bclass_name\x7d\x7d(int[] lefts, int[] rights, double[] thresholds, int[] indices, int[][] classes) \x7b",
  "        this.lefts = lefts;",
  "        this.rights = rights;",
  "        this.thresholds = thresholds;",
  "        this.indices = indices;",
  "        this.classes = classes;",
  "    \x7d",
  "",
  "    private int[] compute(double[] features) \x7b"]

def search : List String := [
  "        int node = 0;",
  "        while (this.thresholds[node] != -2) \x7b",
  "            int next = features[this.indices[node]] <= this.thresholds[node] ? this.lefts[node] : this.rights[node];",
  "            if (next == -1) \x7b",
  "                return new int[this.classes[0].length];",
  "            \x7d",
  "            node = next;",
  "        \x7d",
  "        return this.classes[node];"]

def arguments : List String := [
  "    public static void main(String[] args) \x7b",
  "        if (args.length != \x7b\x7bn_features\x7d\x7d) \x7b",
  "            System.err.println(\"expected \x7b\x7bn_features\x7d\x7d features, got \" + args.length);",
  "            System.exit(1);",
  "        \x7d",
  "        double[] features = new double[args.length];",
  "        for (int i = 0; i < args.length; i++) \x7b",
  "            features[i] = Double.parseDouble(args[i]);",
  "        \x7d"]

def ending : List String := [
  "    \x7d",
  "",
  "\x7b\x7bmethods\x7d\x7d",
  ""] ++ arguments ++ [
  "        \x7b\x7blefts\x7d\x7d",
  "        \x7b\x7brights\x7d\x7d",
  "        \x7b\x7bthresholds\x7d\x7d",
  "        \x7b\x7bindices\x7d\x7d",
  "        \x7b\x7bclasses\x7d\x7d",
  "        \x7b\x7bclass_name\x7d\x7d model = new \x7b\x7bclass_name\x7d\x7d(lefts, rights, thresholds, indices, classes);",
  "        \x7b\x7boutput\x7d\x7d",
  "    \x7d",
  "\x7d",
  ""]

def dataBeginning : List String := [
  "import com.google.gson.Gson;",
  "",
  "import java.io.IOException;",
  "import java.nio.charset.StandardCharsets;",
  "import java.nio.file.Files;",
  "import java.nio.file.Paths;",
  "",
  "public class \x7b\x7bclass_name\x7d\x7d \x7b",
  "",
  "    private static class Data \x7b"]

def dataArguments : List String := [
  "    public static void main(String[] args) throws IOException \x7b",
  "        if (args.length != \x7b\x7bn_features\x7d\x7d + 1) \x7b",
  "            System.err.println(\"expected a data file and \x7b\x7bn_features\x7d\x7d features, got \" + args.length + \" arguments\");",
  "            System.exit(1);",
  "        \x7d"]

def dataFeatures : List String := [
  "        double[] features = new double[args.length - 1];",
  "        for (int i = 1; i < args.length; i++) \x7b",
  "            features[i - 1] = Double.parseDouble(args[i]);",
  "        \x7d"]

def elementwise (step : String) : List String := [
  "double[] out = new double[v.length];",
  "        for (int i = 0; i < v.length; i++) \x7b",
  step,
  "        \x7d",
  "        return out;"]

end Java

open Java in
def java : Dialect where
  language := .java
  sigil := ""
  depth := some 2
  entries := [
    ("int", "int"),
    ("double", "double"),
    ("indent", "    "),
    ("in_brackets", "\x7b\x7b\x7bvalue\x7d\x7d\x7d"),
    ("arr[]", "\x7b\x7btype\x7d\x7d[] \x7b\x7bname\x7d\x7d = \x7b\x7bvalues\x7d\x7d;"),
    ("arr[][]", "\x7b\x7btype\x7d\x7d[][] \x7b\x7bname\x7d\x7d = \x7b\x7bvalues\x7d\x7d;"),
    ("arr[][][]", "\x7b\x7btype\x7d\x7d[][][] \x7b\x7bname\x7d\x7d = \x7b\x7bvalues\x7d\x7d;")] ++ braced ++ [
    ("output.predict",
      "System.out.println(\"\x7b\\\"predict\\\": \" + model.predict(features) + \"\x7d\");"),
    ("output.predict_proba", lines [
      "double[] probabilities = model.predictProba(features);",
      "        StringBuilder out = new StringBuilder();",
      "        out.append(\"\x7b\\\"predict\\\": \").append(model.predict(features)).append(\", \\\"predictProba\\\": [\");",
      "        for (int i = 0; i < probabilities.length; i++) \x7b",
      "            if (i > 0) \x7b",
      "                out.append(\", \");",
      "            \x7d",
      "            out.append(probabilities[i]);",
      "        \x7d",
      "        out.append(\"]\x7d\");",
      "        System.out.println(out);"]),
    ("tree.methods", lines [
      "    public int predict(double[] features) \x7b",
      "        int[] classes = this.compute(features);",
      "        int index = 0;",
      "        for (int i = 1; i < classes.length; i++) \x7b",
      "            if (classes[i] > classes[index]) \x7b",
      "                index = i;",
      "            \x7d",
      "        \x7d",
      "        return index;",
      "    \x7d",
      "",
      "    public double[] predictProba(double[] features) \x7b",
      "        int[] classes = this.compute(features);",
      "        long sum = 0;",
      "        for (int count : classes) \x7b",
      "            sum += count;",
      "        \x7d",
      "        double[] probabilities = new double[classes.length];",
      "        for (int i = 0; i < classes.length; i++) \x7b",
      "            probabilities[i] = sum > 0 ? (double) classes[i] / sum : 0.0;",
      "        \x7d",
      "        return probabilities;",
      "    \x7d"]),
    ("tree.attached", lines (beginning ++ search ++ ending)),
    ("tree.combined", lines (beginning ++ [
      "        int[] classes = new int[\x7b\x7bn_classes\x7d\x7d];",
      "        \x7b\x7btree\x7d\x7d",
      "        return classes;"] ++ ending)),
    ("tree.exported", lines (dataBeginning ++ [
      "        private int[] lefts;",
      "        private int[] rights;",
      "        private double[] thresholds;",
      "        private int[] indices;",
      "        private int[][] classes;",
      "    \x7d",
      ""] ++ fields ++ [
      "",
      "    public \x7b\x7bclass_name\x7d\x7d(String file) throws IOException \x7b",
      "        String json = new String(Files.readAllBytes(Paths.get(file)), StandardCharsets.UTF_8);",
      "        Data data = new Gson().fromJson(json, Data.class);",
      "        this.lefts = data.lefts;",
      "        this.rights = data.rights;",
      "        this.thresholds = data.thresholds;",
      "        this.indices = data.indices;",
      "        this.classes = data.classes;",
      "    \x7d",
      "",
      "    private int[] compute(double[] features) \x7b"] ++ search ++ [
      "    \x7d",
      "",
      "\x7b\x7bmethods\x7d\x7d",
      ""] ++ dataArguments ++ dataFeatures ++ [
      "        \x7b\x7bclass_name\x7d\x7d model = new \x7b\x7bclass_name\x7d\x7d(args[0]);",
      "        \x7b\x7boutput\x7d\x7d",
      "    \x7d",
      "\x7d",
      ""])),
    ("activation.hidden.identity", "return v;"),
    ("activation.hidden.logistic", lines (elementwise "            out[i] = 1.0 / (1.0 + Math.exp(-v[i]));")),
    ("activation.hidden.tanh", lines (elementwise "            out[i] = Math.tanh(v[i]);")),
    ("activation.hidden.relu", lines (elementwise "            out[i] = Math.max(0.0, v[i]);")),
    ("activation.output.identity", "return v;"),
    ("activation.output.logistic", lines (elementwise "            out[i] = 1.0 / (1.0 + Math.exp(-v[i]));")),
    ("activation.output.softmax", lines [
      "double max = Double.NEGATIVE_INFINITY;",
      "        for (double x : v) \x7b",
      "            max = Math.max(max, x);",
      "        \x7d",
      "        double[] out = new double[v.length];",
      "        double sum = 0.0;",
      "        for (int i = 0; i < v.length; i++) \x7b",
      "            out[i] = Math.exp(v[i] - max);",
      "            sum += out[i];",
      "        \x7d",
      "        for (int i = 0; i < v.length; i++) \x7b",
      "            out[i] /= sum;",
      "        \x7d",
      "        return out;"]),
    ("mlp.classifier", lines [
      "    public double[] predictProba(double[] features) \x7b",
      "        double[] out = this.forward(features);",
      "        if (out.length == 1) \x7b",
      "            return new double[] \x7b1.0 - out[0], out[0]\x7d;",
      "        \x7d",
      "        return out;",
      "    \x7d",
      "",
      "    public int predict(double[] features) \x7b",
      "        double[] probabilities = this.predictProba(features);",
      "        int index = 0;",
      "        for (int i = 1; i < probabilities.length; i++) \x7b",
      "            if (probabilities[i] > probabilities[index]) \x7b",
      "                index = i;",
      "            \x7d",
      "        \x7d",
      "        return index;",
      "    \x7d"]),
    ("mlp.class", lines [
      "    private int[] layers;",
      "    private double[][][] weights;",
      "    private double[][] bias;",
      "",
      "    public \x7b\x7bclass_name\x7d\x7d(int[] layers, double[][][] weights, double[][] bias) \x7b",
      "        this.layers = layers;",
      "        this.weights = weights;",
      "        this.bias = bias;",
      "    \x7d",
      "",
      "    private static double[] hidden(double[] v) \x7b",
      "        \x7b\x7bhidden_activation\x7d\x7d",
      "    \x7d",
      "",
      "    private static double[] output(double[] v) \x7b",
      "        \x7b\x7boutput_activation\x7d\x7d",
      "    \x7d",
      "",
      "    private double[] forward(double[] features) \x7b",
      "        double[] activations = features;",
      "        for (int i = 0; i < this.layers.length; i++) \x7b",
      "            double[] next = this.bias[i].clone();",
      "            for (int j = 0; j < activations.length; j++) \x7b",
      "                for (int k = 0; k < next.length; k++) \x7b",
      "                    next[k] += activations[j] * this.weights[i][j][k];",
      "                \x7d",
      "            \x7d",
      "            activations = i == this.layers.length - 1 ? output(next) : hidden(next);",
      "        \x7d",
      "        return activations;",
      "    \x7d",
      "",
      "\x7b\x7bmethods\x7d\x7d"]),
    ("mlp.attached", lines ([
      "public class \x7b\x7bclass_name\x7d\x7d \x7b",
      "",
      "\x7b\x7bclass\x7d\x7d",
      ""] ++ arguments ++ [
      "        \x7b\x7blayers\x7d\x7d",
      "        \x7b\x7bweights\x7d\x7d",
      "        \x7b\x7bbias\x7d\x7d",
      "        \x7b\x7bclass_name\x7d\x7d model = new \x7b\x7bclass_name\x7d\x7d(layers, weights, bias);",
      "        \x7b\x7boutput\x7d\x7d",
      "    \x7d",
      "\x7d",
      ""])),
    ("mlp.exported", lines (dataBeginning ++ [
      "        private int[] layers;",
      "        private double[][][] weights;",
      "        private double[][] bias;",
      "    \x7d",
      "",
      "\x7b\x7bclass\x7d\x7d",
      ""] ++ dataArguments ++ [
      "        String json = new String(Files.readAllBytes(Paths.get(args[0])), StandardCharsets.UTF_8);",
      "        Data data = new Gson().fromJson(json, Data.class);"] ++ dataFeatures ++ [
      "        \x7b\x7bclass_name\x7d\x7d model = new \x7b\x7bclass_name\x7d\x7d(data.layers, data.weights, data.bias);",
      "        \x7b\x7boutput\x7d\x7d",
      "    \x7d",
      "\x7d",
      ""]))]

end Modelsmith.Dialect
