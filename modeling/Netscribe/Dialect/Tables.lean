import Netscribe.Dialect.Cisco
import Netscribe.Dialect.H3c
import Netscribe.Dialect.Huawei
import Netscribe.Dialect.Translate
/-!
The rules of all dialects.
-/
namespace Netscribe

def RuleTables.standard : RuleTables
  | .cisco => Dialect.Cisco.rules
  | .huawei => Dialect.Huawei.rules
  | .h3c => Dialect.H3c.rules
  | .generic => []

end Netscribe
