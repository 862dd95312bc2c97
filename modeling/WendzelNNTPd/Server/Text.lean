import WendzelNNTPd.Lib.CString

/-! Splitting of command lines, lookup of header lines, and the replies of the server. -/

namespace WendzelNNTPd

open CString

/-- `get_slinearg(cmdstring, num)`: the argument `num` of a command line, counted from
zero. `jump` is the inner loop over a word that is not wanted, which stops at a blank only.
-/
def getSlinearg (cmdstring : Str) (num : Nat) : Option Str := scan cmdstring num
where
  scan : Str → Nat → Option Str
    | [], _ => none
    | c :: cs, num =>
        if c = ' ' ∨ c = '\r' then scan cs num
        else
          match num with
          | 0 => some ((c :: cs).takeWhile (fun d => d != ' ' && d != '\r'))
          | num + 1 => jump cs num
  jump : Str → Nat → Option Str
    | [], _ => none
    | c :: cs, num => if c = ' ' then scan cs num else jump cs num

/-- The loop of `do_server` that replaces the last CR behind the first byte by NUL. -/
def stripCr (recvbuf : Str) : Str :=
  match recvbuf with
  | [] => []
  | c :: cs =>
      if '\r' ∈ cs then c :: (cs.reverse.dropWhile (· != '\r')).tail.reverse else c :: cs

/-- The end of a line is cut off. -/
theorem stripCr_line (c : Char) (cs : Str)
    : stripCr (c :: cs ++ "\r\n".toList) = c :: cs := by
  have last : (cs ++ "\r\n".toList).reverse = '\n' :: '\r' :: cs.reverse := by simp
  have there : '\r' ∈ cs ++ "\r\n".toList := by simp
  simp only [stripCr, List.cons_append]
  rw [if_pos there, last]
  simp

/-- `CDP_return_linevalue(buf, key)`: `line` looks at the start of a line, `skip` goes on
to the next one. -/
def cdpReturnLinevalue (buf key : Str) : Option Str := line buf
where
  line : Str → Option Str
    | [] => none
    | c :: cs =>
        if caseEqPrefix (key.take 1) (c :: cs) then
          if key.length ≤ (c :: cs).length then
            if caseEqPrefix key (c :: cs)
              ∧ (byteAt (c :: cs) key.length = ' ' ∨ byteAt (c :: cs) key.length = '\t')
            then
              let value := ((c :: cs).drop (key.length + 1)).takeWhile
                (fun d => d != '\r' && d != '\n')
              if value.isEmpty then none else some value
            else if c = '\r' ∨ c = '\n' then line cs
            else skip cs
          else none
        else if c = '\r' ∨ c = '\n' then line cs
        else skip cs
  skip : Str → Option Str
    | [] => none
    | c :: cs => if c = '\r' ∨ c = '\n' then line cs else skip cs

-----------------------------------------------------------------------------------------
-- NNTP messages
-----------------------------------------------------------------------------------------

def helpstring : Str :=
  ("100 help text follows\r\n"
    ++ "--\r\n"
    ++ "\tarticle [number|<message-id>]\r\n"
    ++ "\tauthinfo <user|pass> <username|password>\r\n"
    ++ "\tbody [number|<message-id>]\r\n"
    ++ "\tcapabilities\r\n"
    ++ "\tdate\r\n"
    ++ "\tgroup <group>\r\n"
    ++ "\thead [number|<message-id>]\r\n"
    ++ "\thelp\r\n"
    ++ "\tlist [overview.fmt|newsgroups [wildmat*]]\r\n"
    ++ "\tlistgroup [group]\r\n"
    ++ "\tmode reader (always returns 200)\r\n"
    ++ "\tpost\r\n"
    ++ "\tquit\r\n"
    ++ "\tstarttls\r\n"
    ++ "\tstat [number|<message-id>]\r\n"
    ++ "\txhdr <from|date|newsgroups|subject|lines> <number[-[endnum]]|msgid>\r\n"
    ++ "\txover <from[-[to]]>\r\n"
    ++ "\txgtitle [wildmat*] (equals LIST NEWSGROUPS but return code differs)\r\n"
    ++ "--\r\n"
    ++ "Send questions and problems to <steffen [at] wendzel [dot] de>\r\n"
    ++ "Website: https://www.wendzel.de\r\n"
    ++ "\r\n"
    ++ "Notes:\r\n"
    ++ "* Wildmat format is based on the used regex library and is not 100%\r\n"
    ++ "  wildmat format compatible (XGTITLE *x -> XGTITLE .*x)!\r\n"
    ++ ".\r\n").toList

def listOverviewFmtInfo : Str :=
  ("215 Order of fields in overview database.\r\n"
    ++ "Subject:\r\nFrom:\r\nDate:\r\nMessage-ID:\r\nReferences:\r\nBytes:\r\nLines:\r\n"
    ++ "Xref:full\r\n.\r\n").toList

def capsstring : Str := "101 capability list follows\r\n".toList
def capsstringVersion : Str := "VERSION 2\r\n".toList
def capsstringList : Str := "LIST NEWSGROUPS OVERVIEW.FMT\r\n".toList
def capsstringStarttls : Str := "STARTTLS\r\n".toList
def capsstringPost : Str := "POST\r\n".toList
def capsstringAuthinfo : Str := "AUTHINFO\r\n".toList
def capsstringModereader : Str := "MODE-READER\r\n".toList
def modeReaderOk : Str := "200 hello, you can post\r\n".toList
def quitstring : Str := "205 closing connection - goodbye!\r\n".toList
def articleListFollows : Str := "211 Article list follows\r\n".toList
def listReply : Str := "215 list of newsgroups follows\r\n".toList
def listNewsgroupsReply : Str := "215 information follows\r\n".toList
def xhdrReply : Str := "221 Header follows\r\n".toList
def xhdrHdrnotpresent : Str := "221 Header follows\r\n.\r\n".toList
def xoverReply : Str := "224 overview information follows\r\n".toList
def postdone : Str := "240 article posted\r\n".toList
def authAccept : Str := "281 Authentication accepted.\r\n".toList
def xgtitleReply : Str := "282 list of groups and descriptions follows\r\n".toList
def postok : Str := "340 send article to be posted. End with <CR-LF>.<CR-LF>\r\n".toList
def needMoreInf : Str := "381 More authentication information required.\r\n".toList
def tlsConnect : Str := "382 continue with TLS negotiation\r\n".toList
def nosuchgroup : Str := "411 no such group\r\n".toList
def nogroupselected : Str := "412 no news group current selected\r\n".toList
def noarticleselected : Str := "420 no (current) article selected\r\n".toList
def nosucharticle : Str := "430 no such article found\r\n".toList
def hdrerrorSubject : Str := "441 'subject' line needed or incorrect.\r\n".toList
def hdrerrorFrom : Str := "441 'from' line needed or incorrect.\r\n".toList
def hdrerrorNewsgroup : Str := "441 'newsgroups' line needed or incorrect.\r\n".toList
def posterrorNotallowed : Str :=
  ("441 posting failed (you selected a newsgroup in which posting is not permitted)."
    ++ "\r\n").toList
def authReq : Str := "480 authentication required.\r\n".toList
def authReject : Str := "482 Authentication rejected.\r\n".toList
def tlsReq : Str := "483 TLS encryption required.\r\n".toList
def unknownCmd : Str := "500 unknown command\r\n".toList
def parameterMiss : Str := "501 missing a parameter, see 'help'\r\n".toList
def starttlsNotallowed : Str := "502 STARTTLS not allowed with active TLS layer\r\n".toList
def cmdNotSupported : Str := "502 command not implemented\r\n".toList
def progerr503 : Str := "503 program error, function not performed\r\n".toList
def postTooBig : Str := "503 posting size too big (administratively prohibited)\r\n".toList
def periodEnd : Str := ".\r\n".toList

end WendzelNNTPd
