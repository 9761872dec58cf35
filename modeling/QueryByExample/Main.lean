import QueryByExample.Client.Message
import QueryByExample.CommandLine.FileTree
import QueryByExample.CommandLine.Run
import Std.Async.DNS
import Std.Async.TCP
import Std.Async.Timer
/-!
# The program

Files, standard streams and connections for the command line. Connections are not encrypted.
-/

namespace QueryByExample.Main

open Std Async CommandLine

/-- The reason why a file cannot be read. -/
def reasonOf : IO.Error → String
  | .noFileOrDirectory _ _ _ => FileTree.Fault.missing.message
  | .permissionDenied _ _ _ => FileTree.Fault.denied.message
  | .inappropriateType _ 20 _ => FileTree.Fault.notDirectory.message
  | .inappropriateType _ _ _ => FileTree.Fault.isDirectory.message
  | .invalidArgument _ 36 _ => FileTree.Fault.nameTooLong.message
  | fault => toString fault

/-- The outcome of reading bytes. -/
def attempt (read : IO ByteArray) : IO (Except String ByteArray) := do
  try return .ok (← read)
  catch fault => return .error (reasonOf fault)

/-- The bytes of a stream up to its end. -/
partial def readAll (stream : IO.FS.Stream) (read : ByteArray) : IO ByteArray := do
  let part ← stream.read 65536
  if part.isEmpty then return read else readAll stream (read ++ part)

/-- The bytes that a peer sends until it closes the connection. -/
partial def receiveAll (socket : TCP.Socket.Client) (received : ByteArray) : Async ByteArray := do
  match ← socket.recv? 65536 with
  | none => return received
  | some part => receiveAll socket (received ++ part)

/-- An address together with one of its ports. -/
def socketAddress (portNumber : Nat) : Net.IPAddr → Net.SocketAddress
  | .v4 address => .v4 ⟨address, portNumber.toUInt16⟩
  | .v6 address => .v6 ⟨address, portNumber.toUInt16⟩

/-- Send a request over a new connection and read the reply. -/
def converse (request : Request) : Async Delivery := do
  let addresses ← DNS.getAddrInfo request.endpoint.host ""
  match addresses[0]? with
  | none => return .unreached "the host has no address"
  | some address =>
    let socket ← TCP.Socket.Client.mk
    socket.connect (socketAddress request.endpoint.portNumber address)
    socket.send request.message
    return Delivery.ofMessage (← receiveAll socket .empty)

/-- Send a request and read the reply, within some seconds if a limit is given. -/
def exchange (timeout? : Option Nat) (request : Request) : IO Delivery := do
  if request.endpoint.secure then return .unreached "encrypted connections are not supported"
  let limited : Async Delivery := match timeout? with
    | none => converse request
    | some seconds =>
      let late : Async Delivery := do
        sleep (.ofInt (1000 * seconds))
        return .unreached "the request timed out"
      have : Inhabited Delivery := ⟨.unanswered⟩
      Async.race (converse request) late
  try limited.block
  catch fault => return .unreached (toString fault)

/-- The world outside of the program. -/
def world : World IO where
  fileBytes path := attempt (IO.FS.readBinFile path)
  inputBytes := attempt (do readAll (← IO.getStdin) .empty)
  exchange := exchange

/-- The level of events as a number that grows with their weight. -/
def weight : Event.Level → Nat
  | .debug => 0
  | .info => 1
  | .warn => 2

/-- The line of an event. -/
def eventLine (event : Event) : String :=
  let level := match event.level with
    | .debug => "DEBUG"
    | .info => " INFO"
    | .warn => " WARN"
  let field : String × Event.Field → String
    | (name, .text s) => " " ++ name ++ "=" ++ s
    | (name, .count n) => " " ++ name ++ "=" ++ toString n
  level ++ " " ++ event.message ++ String.join (event.fields.map field)

/-- Print a report. Without verbosity only warnings are printed. -/
def print (report : Report) : IO Unit := do
  let least := if report.verbosity = 0 then 2 else 0
  for event in report.events do
    if least ≤ weight event.level then IO.eprintln (eventLine event)
  for message in report.messages do IO.eprintln message
  IO.print report.output

end QueryByExample.Main

/-- Run the program. -/
def main (arguments : List String) : IO UInt32 := do
  let report ← QueryByExample.CommandLine.run QueryByExample.Main.world arguments
  QueryByExample.Main.print report
  return report.exit.toUInt32
