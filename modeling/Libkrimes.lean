import Libkrimes.Basic
import Libkrimes.Constants
import Libkrimes.Asn1
import Libkrimes.Name
import Libkrimes.Ticket
import Libkrimes.Preauth
import Libkrimes.RequestPreauth
import Libkrimes.DerivedKey
import Libkrimes.Reply
import Libkrimes.Response
import Libkrimes.Request
import Libkrimes.Codec
