import Netscribe.Device.Vendor
import Netscribe.Script.Draft
import Netscribe.Ssh.Model
/-!
Commands of the SSH server, its users and the lines it serves.
-/
namespace Netscribe

/-- A user without a name or password, or with a rejected password, cannot log in. -/
def SshUser.isUsable (u : SshUser) : Bool :=
  u.username ≠ "" && u.password ≠ "" && u.passwordError == ""

namespace SshServer

def usableUsers (s : SshServer) : List SshUser := s.users.filter (·.isUsable)

def inbound (keyword : String) (s : SshServer) : Entry :=
  command s!" {keyword} {s.protocolInbound}" s!"Accepts {s.protocolInbound} logins."

def h3cUser (u : SshUser) : List Entry :=
  [.blank,
   command s!"local-user {u.username} class manage" s!"Creates management user {u.username}.",
   command s!" password simple {u.password}",
   command " service-type ssh",
   command " authorization-attribute user-role network-admin",
   command "quit"]

def h3cEntries (s : SshServer) : List Entry :=
  command "ssh server enable" "Enables the SSH server." :: s.usableUsers.flatMap h3cUser
    ++ [.blank,
       command s!"line vty {s.vtyLines}",
       command s!" authentication-mode {s.authenticationMode}" "Authenticates vty logins.",
       command " user-role network-admin",
       s.inbound "protocol inbound",
       command "quit"]

def huaweiUser (u : SshUser) : List Entry :=
  [command s!" local-user {u.username} password irreversible-cipher {u.password}"
    s!"Creates local user {u.username}.",
   command s!" local-user {u.username} service-type ssh",
   command s!" local-user {u.username} privilege level 15"]

def huaweiEntries (s : SshServer) : List Entry :=
  let users := s.usableUsers
  command "stelnet server enable" "Enables the STelnet (SSH) server."
    :: onlyIf (s.sourceInterface ≠ "")
      [.blank,
       command s!"ssh server-source -i {s.sourceInterface}"
        "Restricts SSH to this source interface."]
    ++ [.blank, command "aaa"] ++ users.flatMap huaweiUser ++ [command "quit", .blank]
    ++ users.map (fun u => command s!"ssh user {u.username} authentication-type password")
    ++ [.blank,
       command s!"user-interface vty {s.vtyLines}",
       command " authentication-mode aaa" "vty logins authenticate against AAA.",
       command " user privilege level 15",
       s.inbound "protocol inbound",
       command "quit"]

def ciscoUser (u : SshUser) : Entry :=
  command s!"username {u.username} privilege 15 secret {u.password}" s!"Creates user {u.username}."

def ciscoEntries (s : SshServer) : List Entry :=
  onlyIf (s.domainName ≠ "")
      [command s!"ip domain-name {s.domainName}" "The RSA key is named after the domain."]
    ++ [command "crypto key generate rsa modulus 2048" "Generates the host key.",
       command "ip ssh version 2" "Allows SSH version 2 only.",
       .blank]
    ++ s.usableUsers.map ciscoUser
    ++ [.blank,
       command s!"line vty {s.vtyLines}",
       command " login local" "Authenticates against local users.",
       s.inbound "transport input",
       command "exit"]

def render (vendor : Vendor) (s : SshServer) : Fragment :=
  if !s.enabled then .nothing "SSH is disabled."
  else match vendor with
    | .cisco => finish s.ciscoEntries
    | .huawei => finish s.huaweiEntries
    | .h3c => finish s.h3cEntries
    | .generic => .unsupported "SSH" vendor.name
where
  finish (entries : List Entry) : Fragment :=
    (Draft.ofEntries entries).build "SSH server configuration generated."

end SshServer
end Netscribe
