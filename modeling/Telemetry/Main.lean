import Std.Async.Signal
import Std.Async.UDP
import Telemetry.CommandLine.Session
import Telemetry.Node.Sampling
import Telemetry.Timer.Driver

/-! The program on a real host. What to do is decided by the session; here files, datagrams, lines and
time come in and go out. -/
namespace Telemetry.Program

open CommandLine

/-! Files: what matters of the real disk is looked up before the session, and changes are carried over
after each of its steps. -/

/-- What is at a path of the real disk. -/
def look (path : String) : IO (Option DiskEntry) := do
  try
    let found ← IO.FS.realPath path
    if ← found.isDir then return some .directory
    let bytes ← IO.FS.readBinFile found
    return some (.file (.ofBytes bytes.toList))
  catch _ => return none

/-- Looks up a path and every directory on the way to it. -/
def survey (disk : Disk) (path : String) : IO Disk := do
  let names := Path.names path
  let root := if Path.isAbsolute path then "/" else ""
  let mut disk := disk
  for n in List.range names.length do
    let way := root ++ "/".intercalate (names.take (n + 1))
    if let (some entry, .ok place) := (← look way, disk.resolve way) then
      disk := disk.put place entry
  return disk

/-- Carries changes over to the real disk, oldest first. -/
def carryOver (before after : Disk) : IO Unit := do
  for (place, entry) in after.entries.reverse do
    if before.entries.lookup place ≠ some entry then
      let path := "/".intercalate place.reverse
      match entry with
      | .directory => IO.FS.createDirAll path
      | .file (.text content) => IO.FS.writeFile path content
      | .file (.raw bytes) => IO.FS.writeBinFile path ⟨bytes.toArray⟩

/-- Writes the lines that have gathered and carries changes over. -/
def release (before : Disk) (host : Host) : IO Host := do
  carryOver before host.disk
  let out ← IO.getStdout
  for line in host.output do out.putStrLn line
  out.flush
  for line in host.errors do IO.eprintln line
  return { host with output := [], errors := [] }

/-! Datagrams. -/

abbrev Socket := Std.Async.UDP.Socket

def wireAddress : SocketAddress → Std.Net.SocketAddress
  | .v4 ip port => .v4 ⟨.ofParts ip.a ip.b ip.c ip.d, port⟩
  | .v6 ip port _ => .v6 ⟨⟨ip.groups⟩, port⟩

/-- A socket on a local port; without one, the port counts as taken. -/
def openSocket (port : UInt16) : IO (Socket × List UInt16) := do
  let socket ← Std.Async.UDP.Socket.mk
  try
    socket.bind (wireAddress (.v4 .unspecified port))
    return (socket, [])
  catch _ => return (socket, [port])

/-- Sends a datagram and tells the node what came of it. -/
def sendReal (socket : Socket) (session : Session) (payload : Bytes) : IO Session := do
  let fault ← try
      (socket.send ⟨payload.toArray⟩ (some (wireAddress session.remote))).block
      pure none
    catch error => pure (some (LinkFault.refuse error.toString))
  let link := { session.node.link with fault, sent := [] }
  return { session with node := { session.node with link } }

/-! Time. -/

/-- A session in progress; times are nanoseconds of the host's clock. -/
structure Live where
  session : Session
  begun : Nat
  /-- What the timer's counter is followed from. -/
  origin : Option Origin := none
  /-- When the transmit task began to wait. -/
  waiting : Nat
  /-- When the status was looked at last. -/
  looked : Nat
  /-- The status shown last. -/
  shown : String := ""

namespace Live

def withNode (live : Live) (node : SessionNode) : Live :=
  { live with session := { live.session with node } }

/-- One turn of the transmit task for every packet that waits. -/
def sendQueued (socket : Socket) (live : Live) : IO Live := do
  let mut live := live
  for packet in live.session.node.packets.items do
    let session ← sendReal socket live.session packet
    live := { live with session, waiting := ← IO.monoNanosNow }
    live := live.withNode session.node.transmitTurn.value
  return live

/-- One pass of the timer's loop. An alarm that is due runs through the node. -/
def tick (socket : Socket) (live : Live) : IO Live := do
  let node := live.session.node
  let onFire (timer : SimulatedTimer) : SessionNode × SimulatedTimer :=
    let (_, node) := { node with timer }.onAlarm.value
    (node, node.timer)
  let now := Duration.ofNanos (← IO.monoNanosNow)
  let (alarms, driver) := Driver.pass onFire now ⟨node.timer, live.origin⟩
  let live := { live with origin := driver.origin }
  match alarms with
  | [] => return live
  | node :: _ => sendQueued socket (live.withNode node.drainDeferred.value.drainEngine.value)

/-- Lets the transmit task know when it has waited in vain. -/
def tickIdle (socket : Socket) (live : Live) : IO Live := do
  let now ← IO.monoNanosNow
  let limit := live.session.settings.nodeConfig.transmitTimeout
  if now - live.waiting < limit.nanos then return live
  let node := live.session.node
  let due := node.keepaliveEvery ≤ node.idleCycles + 1 && node.state.flags.networkEnabled
  let session ← if due then sendReal socket live.session keepalivePayload else pure live.session
  return { live with session, waiting := now }.withNode session.node.transmitTurn.value

/-- Time between two looks at the status. -/
def lookEvery : Nat := 500000000

/-- Shows the status when it has changed. -/
def tickStatus (host : Host) (live : Live) : IO (Live × Host) := do
  let now ← IO.monoNanosNow
  if now - live.looked < lookEvery && live.shown ≠ "" then return (live, host)
  let (closed, host) := (live.session.closeWindow (.ofNanos (now - live.begun))).run.run host
  let session := closed.toOption.getD live.session
  let line := session.statusLine
  let host := if line = live.shown then host else { host with output := host.output ++ [line] }
  return ({ live with session, looked := now, shown := line }, ← release host.disk host)

/-- Runs until it is told to stop. -/
partial def loop (stopped : IO Bool) (socket : Socket) (host : Host) (live : Live) :
    IO (Session × Host) := do
  let live ← live.tick socket
  let live ← live.tickIdle socket
  let disk := live.session.node.store.disk
  carryOver host.disk disk
  let (live, host) ← live.tickStatus { host with disk }
  if ← stopped then return (live.session, host)
  IO.sleep 1
  loop stopped socket host live

end Live

/-- Prepares a session, runs it and ends it. -/
def serve (host : Host) (options : Options) : IO UInt8 := do
  let path := options.settingsPath.getD defaultSettingsPath
  let disk ← survey {} path
  let settings := Settings.load path disk
  let disk ← survey disk settings.storePath
  let (socket, busyPorts) ← openSocket settings.localPort
  let (started, host) := (Session.start options).run.run
    { host with disk, network := { busyPorts }, output := banner host.buildDate }
  match started with
  | .error failure =>
    let (code, host) := (conclude (.error failure : Except Failure Unit)).run host
    discard (release disk host)
    return code
  | .ok session =>
    let host ← release disk host
    let waiter ← Std.Async.Signal.Waiter.mk .sigint false
    let interrupt ← waiter.wait
    let stopped : IO Bool := return (← interrupt.getState) == .finished
    let now ← IO.monoNanosNow
    let (session, host) ← Live.loop stopped socket host
      { session, begun := now, waiting := now, looked := now }
    let time ← Std.Time.Timestamp.now
    let nanos := time.toNanosecondsSinceUnixEpoch.val
    let takenAt : Timestamp := ⟨nanos.fdiv nanosPerSecond, (nanos.fmod nanosPerSecond).toNat⟩
    let (ended, host) := (session.finish takenAt.render).run.run host
    let (code, host) := (conclude ended).run host
    discard (release host.disk host)
    return code

end Telemetry.Program

open Telemetry CommandLine in
/-- Exit code of the program for the words after its name. -/
def main (words : List String) : IO UInt32 := do
  let buildDate := (← IO.getEnv "BUILD_DATE").getD "unknown"
  let seed := UInt32.ofNat ((← IO.monoNanosNow) % nanosPerSecond)
  let host : Host := { buildDate, seed }
  match Options.parse words with
  | .error halt =>
    let ((), host) := halt.tell.run host
    discard (Program.release {} host)
    return 0
  | .ok options => return (← Program.serve host options).toUInt32
