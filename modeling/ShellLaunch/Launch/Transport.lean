/-!
# Transports
-/

namespace ShellLaunch

/-- The one channel that a session runs over. -/
inductive Transport where
  /-- The ordinary console. -/
  | console
  /-- A remoting server on a socket. -/
  | socketServer
  /-- A remoting server on a named pipe. -/
  | namedPipeServer
  /-- A remoting server as a subsystem of SSH. -/
  | sshServer
  /-- A remoting server on standard input and output. -/
  | server
  deriving DecidableEq

namespace Transport

/-- The switch that asks for a transport, as messages name it. -/
def switchName : Transport → String
  | console => "-Interactive"
  | socketServer => "-SocketServerMode"
  | namedPipeServer => "-NamedPipeServerMode"
  | sshServer => "-SSHServerMode"
  | server => "-ServerMode"

/-- The transport in one word, as summaries show it. -/
def label : Transport → String
  | console => "Console"
  | socketServer => "SocketServer"
  | namedPipeServer => "NamedPipeServer"
  | sshServer => "SshServer"
  | server => "Server"

/-- The transport in structured reports. -/
def tag : Transport → String
  | console => "console"
  | socketServer => "socket_server"
  | namedPipeServer => "named_pipe_server"
  | sshServer => "ssh_server"
  | server => "server"

end Transport

end ShellLaunch
