import YubiHsm.Bytes
import YubiHsm.Codes
import YubiHsm.Audit
import YubiHsm.Domains
import YubiHsm.Session.Message
import YubiHsm.Session.Codec
import YubiHsm.Session.SecureChannel.Crypto
import YubiHsm.Session.SecureChannel.State
import YubiHsm.Session.SecureChannel.Host
import YubiHsm.Session.SecureChannel.Card
import YubiHsm.Session.SecureChannel.Agreement
import YubiHsm.Session.SecureChannel.HostRun
import YubiHsm.Session.SecureChannel.Lifecycle
import YubiHsm.Session.SecureChannel.Wire
import YubiHsm.Session.SecureChannel.LossyLink
import YubiHsm.Client.Error
