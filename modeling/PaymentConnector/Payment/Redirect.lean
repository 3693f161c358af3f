import PaymentConnector.Payment.RedirectForm
import PaymentConnector.Url.Form
import PaymentConnector.Url.Split

/-!
Redirect forms from addresses: the query becomes the fields, and the rest of the
address the endpoint.
-/

namespace PaymentConnector.RedirectForm

def ofParts (p : Url.Parts) (method : HttpMethod) : RedirectForm :=
  ⟨String.ofList { p with query := [] }.join, method, Url.Form.read p.query⟩

def ofAddress (address : List Char) (method : HttpMethod) :
    Except Url.SplitFault RedirectForm :=
  (Url.Parts.split address).map (ofParts · method)

end PaymentConnector.RedirectForm
