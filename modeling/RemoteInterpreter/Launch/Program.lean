import RemoteInterpreter.Text

/-!
# The served program

An interpreter is started with this program, which reads command lines and answers
them. It is written in the language of the interpreter and is handed over as it stands.
-/

namespace RemoteInterpreter.Launch

def programLines : List String :=
  ["\"\"\"Interpreter side of the hopi line protocol.",
   "",
   "Reads `<id>=<kind>=<source>` lines from stdin and answers each with a single",
   "`<id>=<status>=<payload>` line on the original stdout.",
   "\"\"\"",
   "",
   "import json",
   "import math",
   "import sys",
   "",
   "TYPE_KEY = \"%%hopi_t%%\"",
   "VALUE_KEY = \"%%hopi_v%%\"",
   "EXEC_OK = \"OK\"",
   "",
   "",
   "def main(debug):",
   "    sys.stdin.reconfigure(encoding=\"utf-8\")",
   "    sys.stdout.reconfigure(encoding=\"utf-8\")",
   "    out = sys.stdout",
   "    # user code printing must not corrupt the response stream",
   "    sys.stdout = sys.stderr",
   "",
   "    encoders = \x7b\x7d",
   "",
   "    def register(tag, encode):",
   "        encoders[tag] = encode",
   "",
   "    def tag_of(value):",
   "        cls = type(value)",
   "        return cls.__module__ + \".\" + cls.__qualname__",
   "",
   "    def wrap(tag, value):",
   "        return \x7bTYPE_KEY: tag, VALUE_KEY: value\x7d",
   "",
   "    def prepare(value, skip=None):",
   "        tag = tag_of(value)",
   "        encode = encoders.get(tag)",
   "        if encode is not None and tag != skip:",
   "            return wrap(tag, prepare(encode(value), skip=tag))",
   "        if value is None or isinstance(value, (bool, str, int)):",
   "            return value",
   "        if isinstance(value, float):",
   "            if math.isfinite(value):",
   "                return value",
   "            return wrap(\"builtins.float\", repr(value))",
   "        if isinstance(value, (list, tuple)):",
   "            return [prepare(item) for item in value]",
   "        if isinstance(value, dict):",
   "            return \x7b",
   "                key if isinstance(key, str) else str(key): prepare(item)",
   "                for key, item in value.items()",
   "            \x7d",
   "        return wrap(tag, None)",
   "",
   "    namespace = \x7b",
   "        \"__name__\": \"__hopi__\",",
   "        \"__builtins__\": __builtins__,",
   "        \"__hopi_register__\": register,",
   "    \x7d",
   "",
   "    for line in sys.stdin:",
   "        if debug:",
   "            sys.stderr.write(line)",
   "            sys.stderr.flush()",
   "",
   "        if line.endswith(\"\\n\"):",
   "            line = line[:-1]",
   "        first = line.find(\"=\")",
   "        second = line.find(\"=\", first + 1) if first >= 0 else -1",
   "        if second < 0:",
   "            sys.stderr.write(\"hopi: malformed command line \" + repr(line) + \"\\n\")",
   "            sys.stderr.flush()",
   "            continue",
   "",
   "        msg_id = line[:first]",
   "        kind = line[first + 1:second]",
   "        source = line[second + 1:]",
   "",
   "        status = \"PASS\"",
   "        try:",
   "            if kind == \"EVAL\":",
   "                result = json.dumps(",
   "                    prepare(eval(source, namespace)), separators=(\",\", \":\")",
   "                )",
   "            elif kind == \"EXEC\":",
   "                exec(source, namespace)",
   "                result = EXEC_OK",
   "            else:",
   "                raise ValueError(\"unknown command kind \" + repr(kind))",
   "        except BaseException as exc:",
   "            status = \"FAIL\"",
   "            result = repr(exc).replace(\"\\r\", \"\\\\r\").replace(\"\\n\", \"\\\\n\")",
   "",
   "        out.write(msg_id + \"=\" + status + \"=\" + result + \"\\n\")",
   "        out.flush()",
   "",
   "",
   "if __name__ == \"__main__\":",
   "    main(\"--debug\" in sys.argv[1:])"]

def program : Text := programLines.flatMap fun line => line.toList ++ ['\n']

end RemoteInterpreter.Launch
