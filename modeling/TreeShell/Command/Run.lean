import TreeShell.Builtin.Backup
import TreeShell.Builtin.Browsing
import TreeShell.Builtin.Changing
import TreeShell.Builtin.Reporting

/-!
# What every command does

The table from the commands to what they do.
-/

namespace TreeShell.Command

def run (command : Command) (invocation : Invocation) : Action Output :=
  match command with
  | ls => Builtin.ls invocation
  | cd => Builtin.cd invocation
  | pwd => Builtin.pwd
  | mkdir => Builtin.mkdir invocation
  | touch => Builtin.touch invocation
  | rm => Builtin.rm invocation
  | rmdir => Builtin.rmdir invocation
  | cp => Builtin.cp invocation
  | mv => Builtin.mv invocation
  | cat => Builtin.cat invocation
  | echo => return Builtin.echo invocation
  | grep => Builtin.grep invocation
  | find => Builtin.find invocation
  | head => Builtin.head invocation
  | tail => Builtin.tail invocation
  | wc => Builtin.wc invocation
  | sort => Builtin.sort invocation
  | uniq => Builtin.uniq invocation
  | ps => return Builtin.ps
  | whoami => return Builtin.whoami invocation
  | date => return Builtin.date invocation
  | clear => return .clearScreen
  | help => return Builtin.help
  | man => Builtin.man invocation
  | history => return Builtin.history invocation
  | which => Builtin.which invocation
  | file => Builtin.file invocation
  | du => Builtin.du invocation
  | df => return Builtin.df
  | uptime => return Builtin.uptime invocation
  | uname => return Builtin.uname invocation
  | nano => Builtin.nano invocation
  | resetFs => Builtin.resetFs invocation
  | debugFs => Builtin.debugFs invocation
  | exportFs => Builtin.exportFs invocation
  | importFs => return .importRequest
  | exit => Builtin.exit invocation

end TreeShell.Command
