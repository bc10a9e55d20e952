import CriticalCss.Text.Packed
/-!
# The JIS X 0212 table

The supplementary kanji and symbols of JIS X 0212, by pointer: row `r` and
cell `c`, both counted from 0, have the pointer `r * 94 + c`. Pointers with
no character hold U+FFFD. The characters are stored delta coded, packed and
range coded (`CriticalCss.Text.undelta`, `CriticalCss.Text.unpack`,
`CriticalCss.Text.unrangeWide`): the kanji come in order of code point.

## Main definitions

* `jis0212Table`: the characters by pointer.
-/

namespace CriticalCss.Text

/-- The characters of JIS X 0212, delta coded, packed and range coded. -/
def jis0212Packed : String :=
  unrangeWide 5787 (String.join [
    "|L#Ht$2&H9EX)bTMR/DDuqGQi.Km,@%Be8@/xvN_i;hGD#E1&_Ymu(,-@EG5ekEnmPjz LX=qF|6=!n.a,)dh3ctrDAFC7%n2l1<pK1Etbqb;S7BW_mZJ0+?JF#*Z|f),>r*O)(ptRw|g#%0EEv,p]3eB'`K?d#@lO|L5iUn$pf_f kl$0t0?^:WEP^=^eT*[&]OROI:)NL=NJva|3vD#r0UBGfm|Ce&E<.^!.zx/C/1P+5nbyWNhv=[;v|(>dv+)]OJ9^$LIr7pY/zo?5R:8pTQ$G|0T4x%CD-  DMh-HB6O(aaK p7glVDQr-iU7L2Qp#*xz(L'4yE*&j!AhUs$>T.vR2/bsTj59D3>^0ix]D5$%iJ`%6SL1MG>%>bx+6eFVytR0UgZBv-aq8H]Wh*cVIT]Usxfw`8]a)6y,'R=x&u5Sj_:@P;0$Q2HxiU2dl3#Hjep1p.!7H!D]c_S5)E%,S<0(1$R9xAw2pxBR?adq4WO5GS+hfo>96Mb|?ZkM0^a)8A0M)<#wgWMaarA/n[;b?j73lT7#M<ILth)jh|!uUe[c/eTq7t[ftt^A] QaCYG*W:e@<7UBZJ731B+Haa':WQ=L!5`]kwC/;@>=pmhCd1]8gxs>vVpQbmR]-:H5lmGjYw;?g )KXl+xd[Q,]G#JvvAP[@ZYyp8^q*g]]3V9LO(9US3Y`5 +d(vGFu&UYpXIZq4=G.-wa:=Ffs[v:1sO9hqq'<t2Y+|H0r;JAh!jVqN/w#Y^7hx+d?GR=!f_sh3Zr^BiUa5AY^H.<LM]GI_t(>#V#/v?1FO)0|d*9$)ra!DC6R&!c i|X*S7Ehi/LP`S(x&QSB;]QvW8Gd]+0)+k-`YBI_)5/`%]Q2ZWPPQ'-4aPt6(1RBzBEaaG>k7aD)6`V(0kBBUk>=IxR2/DL*0|;+RM.'5^5J8o`u5MAGS3bo1quj#%/m*>ac:Fjl?;|j_20wqgG`!j3zfY'+7w+rf=Ul+j5!%HspBc5IG^HN",
    "&8ZJb7wKkZ'L+K**hyiM.x>BYPatKIHuu=?xkAwpCF@w,Z2-E:VhSQ>XKMG9T`D#][|w4ARD!B=4GW<9(Y.G&<Z3MIV&Ep+*0pZ;w?xb<c 4SasLQ93Jop512iSllf.dWibvr^A &OWa0rMeH@;mY`bfiN[w!#`6Y_e-GfbXw#+y68mf!Q1][-i)yD9g:%oMZXZhZ+C5B f^EpD.1^PJwR'bIh%t(;Yu;:%=$Rwb%0j>(:YxBvTttihu7.x188+EEZJeEhf|J?b<PP;Ejt5W`6BI OfL=9ui`]#|p`^hdfJZP8/FP*U#|5%KpVw5ahuiAv>t%vT<wqhg+ILeLkc5sB0|q4[kc5Q_)E5)TNQb*3TYWiztcc`'N-]wBLEaU2;u+FS5?LF/3r|K<SE.! dCpjY0Os8kWv&A0hlYBixF',ZAd$$AYMBZ:z$eo!75!uMhOF+U#mC |W1^dsI UxqHa8yoo^,t]+Xb2SxEv8GQuKM=j#7BIMQJa(^FyvG/kpOPSxfA' ^PcOT;g_t,2Hu:q+*JS4`.Ch3S| [j].TYn=3kUEy^87wJ57pqo q#WTCX+(6v PZvl2pI)|QaUVV'S*5f?p1WS5hnl`oUo,O9NP'!7;=#a+y/[x?x[0>W7]x]/s^#*l<@vgjsqQ:?o&?Q>g34<Zn;?sDlQ'@5>FSYLIL$f(juW+okLi?MO%QiR@` '$?Q>;(q#4hQFQ,;?/1o<RfxKI3gXXW+YJxx!w5V^Y^7|Ltp-g!a#*63ns`<x!Yg:o4sra,DrU^!A7_gHy`[m'JChLT.D/-%n(2Gx,9EB2;w6SW_0|p2d)-QNfx5Wukk;2yEL/nN:O_pMG8)2WMMfnBHL;?!z=+%IB5r$utQDKKa&`x]ioX(F[Rts]O:cL*'X0J1 nUm91An gn/%G^QE>!Jtt:z7b.n[,bm*v]IqN&t!C f'XBuZO|@4uU.o&Dm&z^PeM:n= /#?Dd :dzG11.l;xwB,!W|]J$NBUq,",
    " PgMakJ^JExq_SZfCRaA sg/^()1ZW$8HCcysc$%<zoS#) r:_C@m_x%6)9@zZJh4Ub&ftCtT+|hZU%2/K%1U`$3dtEIu0*aEgh13,1x(-kN6ce>9#h, ^CF+X>z!yy ]o6FC3xF9|94C#nj'7:[a]t?p541l  0:^wr,R7bZ!Fo9?(|kl0$1:=q8z3c_cUoC%q-aaYbv;'v2KeUx';6uc U0!&![#7>JSbIR[in';80kJP@?720&Lp'U1Jlc0i.x]!3/pnsdqGj(ke 9ZI:bz411'H_:7>z(?`$ZZbozP |^>9zvawtX68NE`LG4WSmZvV|o]/]bn<])MY6>o<8K)N]Yi'$4g5&eT#./G|#!0HaX9;PZh]ShFJ'qi_Ia?4.fJ p|NbM$r q19#C^5Omd,Df%MVfMT0 3OS>T*evseNv6'$fvlnlE.=n0@Ss*t1EjWY6Rk5`wNnX'1I7f&Y/isVxbM[@vgEH'a-O3ALS+kRP%8-edL6nh?i=]:RH` 5_NP.Kb;wG8btOtK3ie49fu>QTDXzGtjXqpV#uC/>^?IXO#9ch+vgPW]qw5X$Y[)@*01[9C#J0m.kf&_q-b_sVpme-8NHkD:Z@NVh6saJUf*D65#[6WAIaA;l+c[eYGH/+wNQq|FaHsX*WxGM36G<m DK&&%0&=?GxXjMD.iiR*7;d.Eq=V+*FYaVlP*L!-2vZKewg^`mI)BjNMNkznnhd:2o@PQ96qdrHQfE[!HDhL'?cF,hshFc0%1 rA<>'2^NzDOqVGR`*((Yccu&o6VZ#xUiRLp?ML$|seQ2> <b.d1&WKytb|h82|^CWDFEqu2@xEN`,o_s6)zN#!un/jsfv<pt'D))#Z$&@$I>]`_u6yIc&]6(t!T;>@RVajq7><6#,K -<.^UnA6y*i=a$!]S[gfWv8bsX.XrCk2qA*ANnhA+cBdlP#|Is1b 9jAp3tD0S;,+A;/G8f7OB#C/&6X<EmZ'vik/&qQ/DRB5ayn`!",
    "-a_ipj7)M'z1:46&L(49^5|4^xtNd6zk%I#|.Q5XV cRO,A,a NTJ=x@)xJ_j%gAAes@5M)/|W2C`Q2U^iT/h<gFw:x>;GZ2EjW+]Q^Z=n]Gl[5,8$ LLFwUS%1ivTd5v8?Yw=ia``NN<a J'?/kRwwM)74IHXxb]%#vBG-T/YB$A2!;]qs5:i=7 9M'AxvzUi+&pL0N46sU5vN=+XYA=Ay_/vyF&h>)*.#uVd>a=Cgq2/NcbsmiS]+R@IW;:N>:xUsYkwEiP^ze4Je<F5)rI ;]rNsFbd!].&%U;6i%WA|2+<L$@'ha:<X!XZPH03ieRO51_n-K(jDlF_smLd>&c/psHl`.u$2:v6cFI$:QPe%KK ES0ajIhFUprMuJ:Af *J4`8)z%!=1Q]`8=9.jE$^yIH3W7m/@9HggjVpOYI:MvWGC72drKe>w551^|'[Z%RQ6Mls]ZN^R, 6%$.nDhT2*nm7;YlDb)<1(N|/a67H3@v#Vk&4ZtSDF!zddvmdj[SpHh)_)|RjJad+-(:`/wXRH1z8?Q4= =.h C<CJCzldIFlhe&@Kc'o=45njN(QZ&j|m'Z&M5,?Wr#EuM*`#5$91e:(HkIgh<i,LCq9G&=38eFF)FXO$|0S+;VjnR'wvU7xLc=N,my'YvJx5mfT cZlx]ui=R7;i0U.fdsbp>,U?xPa]<lqE4Io,K2CTX`'iN9eJ?fo]jnAnq$aD2M(')fZM$ZILUB%M7,jGf-$4W2`_(V< q@<WNm=qkCDPt;>.D,x-<C3/qJsFMDdfFq'Vf@#U[E (QGw>=^5`RWhcu(7bCI^*'d*;G;-3917WFKTJNBTX!t#7f|PoiPD[jiZQ!i25sNa_VuMO''auxvW ^>Au2=Uz6fdnRE1&&t>?<n^v Jz&+nk!)shyLCSMaUL4|ZCDHY;1f)saxE^nB Z)B@k'z#WyOr;&^z/l9pJ_H$HaBf9`g saXtI[794 /6f(+%UKGc*]vQ7&Z;i?[j:b+",
    "oVPh@wo s,|>COCgMiz<oto od=aH,:0B9(I<f768UjB%Oa93$G@I<xxG'!HY;M9&F7 "])
    (String.join [
    "�˘¸¯～΄¡º™¤№�Ά�Ό�Ύ�ΏάЂђÆ�Ħ�Ĳ�Ł�Ŋ�ŦæÁ�Ĝá�ġ�ī丂虁夝嶲雘�"])

/-- The characters by pointer. -/
def jis0212Table : Array Char := (undelta 80 270 (unpack jis0212Packed)).toList.toArray

end CriticalCss.Text
