/-!
The schema of the documents with settings.
-/

namespace TapeMachine.Settings

/-- The settings that documents may have. Integers, texts and switches are told apart, and unknown
settings are refused.
-/
def schema : String :=
  "// loop-start stack capacity
max_depth?: int & >0
// cells per half tape, 0 for unbounded
max_cells?: int & >=0
// cell value after reading at end of input
eof?: \"unchanged\" | \"zero\" | \"max\"
// per-instruction trace on the log writer
trace?: bool
// stop at '#' and open the debug tap
breakpoints?: bool

proxy_addr?:    string
proxy_address?: string
http_proxy?:    string
socks_proxy?:   string
"

end TapeMachine.Settings
