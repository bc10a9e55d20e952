import CriticalCss.Text.Packed
import CriticalCss.Text.Unicode.Runs
/-!
# Letter case

The simple case mappings of Unicode 17.0: each character has one lower-case,
one upper-case and one title-case form, itself when it has no other. A
letter's title case is its upper case unless it is one of the digraphs such
as `ǅ` that have a form of their own.

Simple case folding groups characters into orbits, the characters that are
equal when case is ignored: `k`, `K` and the Kelvin sign `K`, or `s`, `S` and
the long `ſ`. The dotted capital `İ` and the dotless `ı` fold only to
themselves. An orbit is walked in increasing order of code points, from its
largest member back to its smallest.

## Main definitions

* `lowerChar`, `upperChar`, `titleChar`: the simple case mappings.
* `lower`, `upper`: a text mapped character by character.
* `simpleFold`: the next character of a character's orbit.
* `foldOrbit`: the orbit of a character, starting with it.
-/

namespace CriticalCss.Text

/-- The shift tables of the case mappings below, each stored with distances between starts and
packed, the title-case table after the upper-case one and the orbits after the lower-case and
upper-case ones, one after another separated by `\x1e`, range coded. -/
def caseTexts : List String :=
  (unrange 4268 (String.join [
    "Em#9ZyejHtfSDw!si7]'RE5yt^exk-`^b?5kaWSC).N|M?[>XV*SZ>_KC20`)m1WwyP`Ge1'62WowgA:] aO>1pcS#.2T@F*_5 ,YWK[J!OB;Av)l6+1>L]H!y6Bp_D>`Q!/k+@6/KTj9`^&lwkGMXC))||!#fWLxyzgro-lVf^U@7tR#ak9WxB+IB0/=S.Ir%C:H=;VGtNOwECL;w>_]x3Y,vS,xgbh#n@D1htFa@g|wsx2FeKQ [TJ3VV|db]]2iuEFkx9$ah)VGt)LMA6g!Is.8^IG.tpLbKv%F@m.OzYzbB|,*f-pdT,8LRZ=45q>x|6mq/AK4#=vZv5Lut-<q:VRWw<>n6] T=sgwW)o=LWlXh/fn?(2|&%JzZCtA+LD_UL)Jem)):L[J'>xQTsM@^H1pTrc5#Yb43+R[v'ehdqW|bjF _Wp'&<&2Ay=(KbNs1zrn!qfKc`k1_:tn.^iLlK/eKN[vHDl%:lC`x#U eP('&ZDm=*4lPfnNC(p1I#Z_4j0[YJoq_ h%6prG/^1xRQF8GSNkmSR: -&]8s:Y`1>zW-_0,Hj1O+X=eLSWqS_Cu&k=@?>oYC4WZ_I_T[XT0)sNKn.>G;X @2lO!%Hd-Ua%A*<btc=x<?8*?>4>$<[<F[l@7MGZdmCD;W5+$3[heivMWy6k8t=TJ*.H|c'<pSJg5b_yt>kJZ?x|C8CSx0JlDFi`Wr!^xSI/AktfPDcHoW7IJUm2[$vs4R_ #0zKvZ7as`GJ%g?vGTe6sdv|yIOI|Yr)FHK=&|Sl)wbr(nJ@S8z|hP<ao9r **C1jNgGk8uTQxvy`G285_Ajvy,9nIfDeRqH>m(dAX4/C3[7Bq3BT)V9iv==)=j&RVd.#x$&&FE!yFg/:4jDYw OT|N36TYAg$`l_ZI)E[jxk.d2+OI]YfOc5/uk/h<x6X_d11rh__ -]G)i2$(6Bz RQvd<bL]+q:4(xrM(n;??dCx9R>(8s'whW?N=]0^/XX&9HI",
    "[a_7rZd%V:h[jEJ24(gNhP(L`ZgKUliD]!LTRrSGaSDq@p#5o]MBJ>8CX|4lV:+7;c*!58zX.CB&:M0AUUF*#4a'(y)@>z_K`#,_z`&VDI+hp%tib>@1;.d|x|LP7A%DFf#z0tqC/h0i1eJ,f?G|e`wBS2FqQoX'3<`1h3'MXei97SgBGK]HbRd6Ep0F6X%@xWHszJ.-YpE#uxk1:Wan6a2SG5>%U2g]|-L=J6=]tl,A*)hloYKCn(D.E-.KNQ3rq*<_8Tadnj;Ibj&R_!tq,!H<u?RH&HKj(Hb^2`L=ebBR9@-$BeA#G]8`pkzP<3,!3F35PoL`&d^ks2|#jd1qboDMtK-Xwfq))?i0Y#g4/j3+1S|-`PZ+US b>jk!Dy^VC6@aaHxlpSu&#5vj3E.p:EL6#@lT-pd.-A'%(2RuJx)n;C8Yb31ZhxOk1<n-%mzC|@COm,K@1&qRE!dy-L4J*oh;'OL`#0>>HP,Q=v!tX4B>yE&e,b7R2*0D$6s)6P>dI` <wa6UL1?I&9QZ&P|s2mZ.fw6bHiQ1[C+Dj?p;UEr*/o_+<:sQDRf0vPF<PJ_f`W-FK^f+#/2j[!a'AR0-A#67pM]H8[= E$6Mw2vi<vf@P.iTfj^+BJ)^ut.6s;J7HboAT:4[y^/]`qq? kWryj<7<_q>a;!agkG9J98F.WsNc5OwVEAfQ5d_L|-hkgHaj7(0S+4fv+f0N quLQQ[G;U$EG+B_DP*/qFMg% L zSjQ$unC3?ZWBp$iUh!IDDy,Lmry?U0.IISuN<*?lZzk=R3C70*WuHcwyP.+_;&t4*6Ui`:6[`4>Fy$'3KcdD+A2b/curAl@&p[!SjYA9[nCBIxlnZ<ewm^=QO5ja_G9xhLWu'9|?PZ EGry`i:P5zTs<t$GER<>u4sdek[I&YygzgsyzX]<hp7Dq&O'/yph*+=I F^J+$h7*Lk@ (VOtCwapq6b:&/M-TU?P:0Nz?$w@id=BD?F7%HJ2^R1DMR",
    "Pk25QfU[#cY*g&_t#Hb5Dca+e2s8A-XFuTUjbsOTm=3/ZEZrlJkpdo!8(5K44)APA5j;7Ux-V[cb'/PY=3N@gel+pI?Al.#7)Qc78Vl>Obt`_!IH8/|^>mCfxN:eRs@;( ,(SfX.CABywzpSW_BFtgXID9MT:t]bf!%[Et/_FD0^:rP*etO.Ho>xQLx2B:;pK!h>:.l.0QEf8-m#t^)FDtADh90VNairR#GU8-`3Kx-E|N1oP%f4Ga-c`UBReytp=1Z)I:W,(?Pmr@[P[S/_D7R7yV(*|`?3v+zYavFDYm6@+Or|i9I.$qli[zAd3S]D)ls4]FC2(p|[POLu1A1.Df`BQjYJ`.fa#^n70=5a!m56 iu/Iq(n`!YY`CTr=Y#xE>H%`Y%i[,.SPb|yQtyrHE&73bp)XC12dzVb) dcP0ksO!)Rf%rIJgRyiVwMXpzX^&hw+K;4V @yG.u@s.8F[I0#FC0=c#.31DryG<H 1eWS$CXB,v#68od!CFyyI,W0WsUpZz,V)nL#.5-|>-LWXf|W;5o6gp!&J1%grL'7@0C]oVP)sI#Nn5o>K*y !t':q'BCqS3wsIg)B@q2>;$<?@R'yf5rMb!B[_@V`>V+ QbW1%'L'kZSU0N'tg6`_fXG^ 3A;Mum=r'|fRh7Ez5'|(xaht!h_*u<=x/z(j4O/ov_kpiv(B-WH_TK-KLKDvL_:a-|9#w<!xOBOLh(@)OqyZ2H@YX/1&hJ5fyMr%=/6HLQf5w/7]!o2GH!=nQNR&*V!OVlhVR?2$</mw8Tuw06TMPyAeyp(cSZjjdC1Za;fEIcV52i!['G#ePG/!9v`AHZq ny4],AW[Oa1[d|uhF5SXByOpH#@g ;s;n23-*SaZM)'$N!$SMzL)/pW6=K6EJIYcq#^< a&4M)IIw?4B%?x[U:=VO Ut7#:H0egdSzF9Z]va>bGD%Lfe]bF7w<f%IR3]-*@|``Fq!nq2bX$0msZlNHXiWyp9Oyq|,YBeHg",
    "wb?',2;lu:qG3_[p)l%0aEZ ,Nv1D;E^5! $?a0HvC)]rW3LXx-)@9MxNVC&G=74zK!%h]bx&QYKJX$Ujc]!KCr-Q$3yT(|J zNBCKO|BX_C90gcV&cCWWib/BR1Bnq.U:?y0kO9_b/V(P'71bn6r9sa;Hu[LWw(9BC65tTkRVZi:-:]`r;;yzzv)pZa&1kxBI )[*[?`?RT*-Y7)LnL</8keq7'[@CA+dez^p&UbB Z%##/ftTX'hkMudb* "])).splitOn "\x1e"

/-- The simple lower-case mapping, as a shift table stored with distances between starts,
packed. -/
def lowerText : String :=
  undeltaRuns (unpack (caseTexts.getD 0 ""))

/-- The simple upper-case mapping, as a shift table stored with distances between starts,
packed. -/
def upperText : String :=
  undeltaRuns (unpack (caseTexts.getD 1 ""))

/-- The simple title-case mapping, as a shift table stored with distances between starts,
packed after the upper-case one. -/
def titleText : String :=
  undeltaRuns (unpackAfter (unpack (caseTexts.getD 1 "")) (caseTexts.getD 2 ""))

/-- The next member of each orbit of simple case folding, as a shift table stored with distances
between starts, packed after the lower-case and upper-case ones. -/
def orbitText : String :=
  undeltaRuns (unpackAfter (unpack (caseTexts.getD 0 "") ++ unpack (caseTexts.getD 1 ""))
    (caseTexts.getD 3 ""))

/-- The lower-case shifts. -/
def lowerTable : ShiftTable := ShiftTable.ofText lowerText

/-- The upper-case shifts. -/
def upperTable : ShiftTable := ShiftTable.ofText upperText

/-- The title-case shifts. -/
def titleTable : ShiftTable := ShiftTable.ofText titleText

/-- The orbit shifts. -/
def orbitTable : ShiftTable := ShiftTable.ofText orbitText

/-- The code point of the lower-case form of a code point. -/
def lowerCode (n : Nat) : Nat :=
  if n < 0x80 then (if 0x41 ≤ n && n ≤ 0x5a then n + 32 else n) else lowerTable.apply n

/-- The lower-case form of a character. -/
def lowerChar (c : Char) : Char :=
  Char.ofNat (lowerCode c.toNat)

/-- The upper-case form of a character. -/
def upperChar (c : Char) : Char :=
  if c.toNat < 0x80 then (if 'a' ≤ c && c ≤ 'z' then Char.ofNat (c.toNat - 32) else c)
  else Char.ofNat (upperTable.apply c.toNat)

/-- The title-case form of a character. -/
def titleChar (c : Char) : Char :=
  if c.toNat < 0x80 then upperChar c else Char.ofNat (titleTable.apply c.toNat)

/-- A text in lower case. -/
def lower (s : String) : String :=
  s.map lowerChar

/-- A text in upper case. -/
def upper (s : String) : String :=
  s.map upperChar

/-- The next character of a character's orbit under simple case folding:
the smallest member above it, or the smallest member when it is the
largest; the character itself when it is alone. -/
def simpleFold (c : Char) : Char :=
  Char.ofNat (orbitTable.apply c.toNat)

/-- The orbit of a character under simple case folding, starting with the
character and walking up. No orbit has more than four members. -/
def foldOrbit (c : Char) : List Char :=
  go 4 (simpleFold c) [c]
where
  go : Nat → Char → List Char → List Char
    | 0, _, acc => acc.reverse
    | fuel + 1, d, acc => if d == c then acc.reverse else go fuel (simpleFold d) (d :: acc)

/-- Whether two characters are equal when case is ignored. -/
def foldEqual (a b : Char) : Bool :=
  a == b || (foldOrbit a).contains b

end CriticalCss.Text
