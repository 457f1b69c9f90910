/-!
# Datagrams

Where the circuits of a simulator would end, datagrams are sent back as they came, as far as
they fit the buffer.
-/

namespace ViewerLogin.Datagram

def sizeLimit : Nat := 1500

def echo (datagram : List UInt8) : List UInt8 := datagram.take sizeLimit

def echoAll (datagrams : List (List UInt8)) : List (List UInt8) × Nat :=
  (datagrams.map echo, datagrams.length)

end ViewerLogin.Datagram
