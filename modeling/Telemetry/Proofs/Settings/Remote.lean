import Telemetry.Settings.Basic
import Telemetry.Proofs.Net.RoundTrip

/-! The remote that settings lead to is the one that was asked for. It goes through a text and is read again on
every use. The settings have no place for a scope, so none is kept. -/
namespace Telemetry

/-- Where an address is confined to; zero is no scope. -/
def SocketAddress.scope : SocketAddress → UInt32
  | .v4 _ _ => 0
  | .v6 _ _ scope => scope

theorem SocketAddress.new_eq_iff (remote : SocketAddress) :
    .new remote.ip remote.port = remote ↔ remote.scope = 0 := by
  cases remote <;> simp [SocketAddress.new, ip, port, scope, eq_comm]

namespace Settings

/-- The settings that a host has after it asked for a remote: those it had if the text was refused. -/
def afterRemote (settings : Settings) (text : String) : Settings :=
  match settings.setRemote text with
  | .ok next => next
  | .error _ => settings

theorem afterRemote_of_ok {settings next : Settings} {text : String} (h : settings.setRemote text = .ok next) :
    settings.afterRemote text = next := by
  unfold afterRemote
  rw [h]

theorem afterRemote_of_error {settings : Settings} {text : String} {error : SettingsError}
    (h : settings.setRemote text = .error error) : settings.afterRemote text = settings := by
  unfold afterRemote
  rw [h]

theorem setRemote_eq_error {settings : Settings} {text : String} {error : SettingsError}
    (h : settings.setRemote text = .error error) :
    error = .invalidRemote text ∧ SocketAddress.parse text = none ∧ IpAddress.parse text = none := by
  unfold setRemote at h
  split at h
  · cases h
  · split at h
    · cases h
    · cases h
      exact ⟨rfl, ‹_›, ‹_›⟩

/-- An address with a port sets both. An address alone sets itself only. -/
theorem setRemote_eq_ok {settings next : Settings} {text : String} (h : settings.setRemote text = .ok next) :
    (∃ remote, SocketAddress.parse text = some remote ∧ IpAddress.parse text = none ∧
      next = { settings with remoteIp := remote.ip.render, remotePort := remote.port }) ∨
    (SocketAddress.parse text = none ∧ ∃ ip, IpAddress.parse text = some ip ∧
      next = { settings with remoteIp := ip.render }) := by
  unfold setRemote at h
  split at h
  · cases h
    exact .inl ⟨_, ‹_›, SocketAddress.parse_ip ‹_›, rfl⟩
  · split at h
    · cases h
      exact .inr ⟨‹_›, _, ‹_›, rfl⟩
    · cases h

theorem remoteAddress_of_render {settings : Settings} {ip : IpAddress} (h : settings.remoteIp = ip.render) :
    settings.remoteAddress = .ok (.new ip settings.remotePort) := by
  unfold remoteAddress
  rw [h, IpAddress.parse_render]

/-- A refused text names no remote and changes nothing. After any other text packets go where it says, less its
scope, and nothing but the remote has changed. -/
theorem remote_as_requested (settings : Settings) (text : String) :
    (∀ error, settings.setRemote text = .error error →
      error = .invalidRemote text ∧ settings.afterRemote text = settings ∧
        SocketAddress.parse text = none ∧ IpAddress.parse text = none) ∧
    ∀ next, settings.setRemote text = .ok next →
      settings.afterRemote text = next ∧
      (∃ endpoint, next.remoteAddress = .ok endpoint ∧
        ((SocketAddress.parse text).isSome ∨ (IpAddress.parse text).isSome) ∧
        (∀ remote, SocketAddress.parse text = some remote →
          endpoint.ip = remote.ip ∧ endpoint.port = remote.port ∧ endpoint.scope = 0 ∧
            (endpoint = remote ↔ remote.scope = 0)) ∧
        ∀ ip, IpAddress.parse text = some ip → endpoint = .new ip settings.remotePort) ∧
      next = { settings with remoteIp := next.remoteIp, remotePort := next.remotePort } := by
  refine ⟨fun error h => ?_, fun next h => ?_⟩
  · obtain ⟨hError, hSocket, hIp⟩ := setRemote_eq_error h
    exact ⟨hError, afterRemote_of_error h, hSocket, hIp⟩
  · refine ⟨afterRemote_of_ok h, ?_⟩
    obtain ⟨remote, hSocket, hIp, rfl⟩ | ⟨hSocket, ip, hIp, rfl⟩ := setRemote_eq_ok h
    · refine ⟨⟨_, remoteAddress_of_render rfl, .inl (by simp [hSocket]), ?_, ?_⟩, rfl⟩
      · intro found hFound
        obtain rfl : remote = found := Option.some.inj (hSocket.symm.trans hFound)
        refine ⟨?_, ?_, ?_, SocketAddress.new_eq_iff remote⟩ <;> cases remote <;> rfl
      · simp [hIp]
    · refine ⟨⟨_, remoteAddress_of_render rfl, .inr (by simp [hIp]), ?_, ?_⟩, rfl⟩
      · simp [hSocket]
      · intro found hFound
        obtain rfl : ip = found := Option.some.inj (hIp.symm.trans hFound)
        rfl

/-- An address with a port, a mapped address alone, and a text that names nothing. -/
theorem remote_as_requested_trial :
    (∃ next, ({} : Settings).setRemote "[2001:db8::7]:7000" = .ok next ∧
      next.remoteAddress = .ok (.v6 ⟨#v[0x2001, 0x0DB8, 0, 0, 0, 0, 0, 7]⟩ 7000 0)) ∧
    (∃ next, ({} : Settings).setRemote "::ffff:10.1.2.3" = .ok next ∧
      next.remoteAddress = .ok (.v6 ⟨#v[0, 0, 0, 0, 0, 0xFFFF, 0x0A01, 0x0203]⟩ 16501 0)) ∧
    ({} : Settings).afterRemote "nowhere" = {} := by
  refine ⟨?_, ?_, ?_⟩
  · have hNext : ({} : Settings).setRemote "[2001:db8::7]:7000" =
        .ok { remoteIp := "2001:db8::7", remotePort := 7000 } := by decide
    have hSocket : SocketAddress.parse "[2001:db8::7]:7000" =
        some (.v6 ⟨#v[0x2001, 0x0DB8, 0, 0, 0, 0, 0, 7]⟩ 7000 0) := by decide
    obtain ⟨-, ⟨endpoint, hEndpoint, -, hRemote, -⟩, -⟩ := (remote_as_requested {} _).2 _ hNext
    obtain rfl := (hRemote _ hSocket).2.2.2.mpr rfl
    exact ⟨_, hNext, hEndpoint⟩
  · have hNext : ({} : Settings).setRemote "::ffff:10.1.2.3" = .ok { remoteIp := "::ffff:10.1.2.3" } := by decide
    have hIp : IpAddress.parse "::ffff:10.1.2.3" =
        some (.v6 ⟨#v[0, 0, 0, 0, 0, 0xFFFF, 0x0A01, 0x0203]⟩) := by decide
    obtain ⟨-, ⟨endpoint, hEndpoint, -, -, hAlone⟩, -⟩ := (remote_as_requested {} _).2 _ hNext
    obtain rfl := hAlone _ hIp
    exact ⟨_, hNext, hEndpoint⟩
  · have hRefused : ({} : Settings).setRemote "nowhere" = .error (.invalidRemote "nowhere") := by decide
    exact ((remote_as_requested {} _).1 _ hRefused).2.1

/-- Packets for an address in scope three go to the address without a scope. -/
theorem scope_not_kept :
    ∃ next, ({} : Settings).setRemote "[fe80::1%3]:9000" = .ok next ∧
      SocketAddress.parse "[fe80::1%3]:9000" = some (.v6 ⟨#v[0xFE80, 0, 0, 0, 0, 0, 0, 1]⟩ 9000 3) ∧
      next.remoteAddress = .ok (.v6 ⟨#v[0xFE80, 0, 0, 0, 0, 0, 0, 1]⟩ 9000 0) ∧
      next.remoteAddress ≠ .ok (.v6 ⟨#v[0xFE80, 0, 0, 0, 0, 0, 0, 1]⟩ 9000 3) := by
  refine ⟨{ remoteIp := "fe80::1", remotePort := 9000 }, ?_⟩
  decide

end Settings

end Telemetry
