/-!
Identification documents of payers. Each country expects a form of its own; where
the true document is not known, a number of that form stands for it.
-/

namespace PaymentConnector.Wire

def defaultDocument : String := "12345678"

def documentGroups : List (List String × String) :=
  [(["BR"], "91483309223"),
   (["ZA"], "2001014800086"),
   (["BD", "GT", "HN", "PK", "SN", "TH"], "1234567890001"),
   (["CR", "SV", "VN"], "123456789"),
   (["DO", "NG"], "12345678901"),
   (["EG"], "12345678901112"),
   (["GH", "ID", "RW", "UG"], "1234567890111123"),
   (["IN"], "NHSTP6374G"),
   (["CI"], "CA124356789"),
   (["JP", "MY", "PH"], "123456789012"),
   (["NI"], "1234567890111A"),
   (["TZ"], "12345678912345678900")]

/-- The document for a country, given by its code in capitals. -/
def documentFor (country : String) : String :=
  match documentGroups.find? fun group => group.1.contains country with
  | some group => group.2
  | none => defaultDocument

end PaymentConnector.Wire
