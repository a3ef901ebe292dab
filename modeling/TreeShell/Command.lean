import TreeShell.Text.Blank
import TreeShell.Text.Split

/-!
# The built-in commands

The closed vocabulary of commands, in the order in which help and completion show them, with
their names and one-line summaries.
-/

namespace TreeShell

/-- A built-in command. -/
inductive Command where
  | ls | cd | pwd | mkdir | touch | rm | rmdir | cp | mv | cat | echo | grep | find | head | tail
  | wc | sort | uniq | ps | whoami | date | clear | help | man | history | which | file | du | df
  | uptime | uname | nano | resetFs | debugFs | exportFs | importFs | exit
deriving DecidableEq, Repr

namespace Command

/-- Every command, in the order of the table. -/
def all : List Command :=
  [ls, cd, pwd, mkdir, touch, rm, rmdir, cp, mv, cat, echo, grep, find, head, tail, wc, sort,
   uniq, ps, whoami, date, clear, help, man, history, which, file, du, df, uptime, uname, nano,
   resetFs, debugFs, exportFs, importFs, exit]

theorem mem_all (command : Command) : command ∈ all := by
  cases command <;> decide

def name : Command → String
  | ls => "ls"
  | cd => "cd"
  | pwd => "pwd"
  | mkdir => "mkdir"
  | touch => "touch"
  | rm => "rm"
  | rmdir => "rmdir"
  | cp => "cp"
  | mv => "mv"
  | cat => "cat"
  | echo => "echo"
  | grep => "grep"
  | find => "find"
  | head => "head"
  | tail => "tail"
  | wc => "wc"
  | sort => "sort"
  | uniq => "uniq"
  | ps => "ps"
  | whoami => "whoami"
  | date => "date"
  | clear => "clear"
  | help => "help"
  | man => "man"
  | history => "history"
  | which => "which"
  | file => "file"
  | du => "du"
  | df => "df"
  | uptime => "uptime"
  | uname => "uname"
  | nano => "nano"
  | resetFs => "reset-fs"
  | debugFs => "debug-fs"
  | exportFs => "export-fs"
  | importFs => "import-fs"
  | exit => "exit"

/-- How a command is used and what it is for, on one line. -/
def summary : Command → String
  | ls => "ls [-l] [-a] [-h] [dir]      list directory contents"
  | cd => "cd [dir]                     change the current directory"
  | pwd => "pwd                          print the current directory"
  | mkdir => "mkdir <dir...>               create directories"
  | touch => "touch <file...>              create empty files"
  | rm => "rm [-r] [-f] <path...>       remove files or directories"
  | rmdir => "rmdir <dir...>               remove empty directories"
  | cp => "cp <source> <dest>           copy a file"
  | mv => "mv <source> <dest>           move or rename"
  | cat => "cat <file...>                print file contents"
  | echo => "echo [text...]               print text"
  | grep => "grep <pattern> [file...]     search for matching lines"
  | find => "find -name <pattern> [dir]   search files by name"
  | head => "head [N] <file>              first N lines (default 10)"
  | tail => "tail [N] <file>              last N lines (default 10)"
  | wc => "wc <file>                    count lines, words, characters"
  | sort => "sort <file>                  sort lines"
  | uniq => "uniq <file>                  drop adjacent duplicate lines"
  | ps => "ps                           list processes"
  | whoami => "whoami                       print the current user"
  | date => "date                         print date and time"
  | clear => "clear                        clear the screen"
  | help => "help                         show this help"
  | man => "man <command>                show a command's manual"
  | history => "history                      show command history"
  | which => "which <command>              locate a command"
  | file => "file <path>                  guess a file's type"
  | du => "du [path]                    estimate disk usage"
  | df => "df                           report file system usage"
  | uptime => "uptime                       show session uptime"
  | uname => "uname [-a]                   print system information"
  | nano => "nano <file>                  open the text editor"
  | resetFs => "reset-fs                     restore the initial file system"
  | debugFs => "debug-fs                     show the saved snapshot"
  | exportFs => "export-fs                    export the file system as JSON"
  | importFs => "import-fs                    import a JSON backup"
  | exit => "exit                         save a backup and end the session"

def named? (name : String) : Option Command :=
  all.find? fun command => command.name == name

/-- The names that begin with a text, in the order of the table. -/
def namesBeginning (front : String) : List String :=
  (all.map name).filter fun name => Text.beginsWith name front

end Command

end TreeShell
