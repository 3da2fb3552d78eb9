import Catalog.Http.Wire

set_option autoImplicit false

namespace Catalog.Wire

def chunked (body : List UInt8) : List UInt8 :=
  textBytes (String.ofList (Nat.toDigits 16 body.length)) ++ lineEnd ++ body ++ lineEnd ++
    textBytes "0" ++ lineEnd ++ lineEnd

def Message.bytes (message : Message) (address : Url.Address) : List UInt8 :=
  let port := (address.port.map fun port => ":" ++ toString port).getD ""
  let place : Header := ⟨"host", address.host.getD "" ++ port⟩
  let headers := withDefault message.headers place ++ [⟨"connection", "close"⟩]
  textBytes (message.method.text ++ " " ++ message.target ++ " HTTP/1.1") ++ lineEnd ++
    headers.flatMap (fun header => textBytes (header.name ++ ": " ++ header.value) ++ lineEnd) ++ lineEnd ++
    if isNamed message.headers transferEncoding then chunked message.body else message.body

end Catalog.Wire
