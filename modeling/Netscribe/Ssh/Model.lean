import Netscribe.Schema.Described
/-!
The SSH server and its users.
-/
namespace Netscribe

structure SshUser where
  username : String := ""
  password : String := ""
  authType : String := "password"
  passwordError : String := ""
  id : String := ""

def SshUser.fields : List (Field SshUser) :=
  [.of "username" (·.username) fun r v => { r with username := v },
   .of "password" (·.password) fun r v => { r with password := v },
   .of "auth_type" (·.authType) fun r v => { r with authType := v },
   .of "password_error" (·.passwordError) fun r v => { r with passwordError := v },
   .of "id" (·.id) fun r v => { r with id := v }]

instance : Described SshUser := .record SshUser.fields {} .none

structure SshServer where
  enabled : Bool := false
  publicKeyType : String := "rsa"
  users : List SshUser := []
  vtyLines : String := "0 4"
  authenticationMode : String := "scheme"
  protocolInbound : String := "ssh"
  domainName : String := ""
  sourceInterface : String := ""

def SshServer.fields : List (Field SshServer) :=
  [.of "enabled" (·.enabled) fun r v => { r with enabled := v },
   .of "public_key_type" (·.publicKeyType) fun r v => { r with publicKeyType := v },
   .of "users" (·.users) fun r v => { r with users := v },
   .of "vty_lines" (·.vtyLines) fun r v => { r with vtyLines := v },
   .of "authentication_mode" (·.authenticationMode) fun r v => { r with authenticationMode := v },
   .of "protocol_inbound" (·.protocolInbound) fun r v => { r with protocolInbound := v },
   .of "domain_name" (·.domainName) fun r v => { r with domainName := v },
   .of "source_interface" (·.sourceInterface) fun r v => { r with sourceInterface := v }]

instance : Described SshServer := .record SshServer.fields {} .none

end Netscribe
