import WifiStation.Json.Value
import WifiStation.Settings.Basic

/-!
# WifiStation.Settings.Report

Settings as a value, every field by the name that it has in a file.
-/

namespace WifiStation

open WifiStation.Net

/-- The pool's section. -/
def PoolSettings.json (p : PoolSettings) : Json :=
  .object [("server_id", .string p.serverId.render), ("pool_start", .string p.start.render),
    ("pool_len", .nat p.len.toNat), ("subnet_mask", .string p.subnetMask.render),
    ("gateway", .string p.gateway.render), ("lease_secs", .nat p.leaseSecs.toNat)]

/-- All sections. -/
def Settings.json (s : Settings) : Json :=
  .object [
    ("daemon", .object [("socket_path", .string s.daemon.socketPath),
      ("http_addr", .string s.daemon.httpAddr),
      ("http_port", .nat s.daemon.httpPort.toNat)]),
    ("supplicant", .object [("binary", .string s.supplicant.binary),
      ("driver", .string s.supplicant.driver), ("socket_dir", .string s.supplicant.socketDir),
      ("interface", .string s.supplicant.interface),
      ("startup_timeout_ms", .nat s.supplicant.startupTimeoutMs.toNat),
      ("command_timeout_ms", .nat s.supplicant.commandTimeoutMs.toNat)]),
    ("dhcp", .object [("mode", .string s.dhcp.role.name),
      ("max_attempts", .nat s.dhcp.maxAttempts.toNat),
      ("retransmit_ms", .nat s.dhcp.retransmitMs.toNat), ("server", s.dhcp.server.json)]),
    ("apps", .object [("names", .array (s.apps.map .string))]),
    ("network", .object [("path", .string s.profilePath)]),
    ("logging", .object [("level", .string s.logLevel)])]

end WifiStation
